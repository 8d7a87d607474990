/-
What it takes to have a token accepted.

Reading a token ends in one of two ways.  Either the token is refused, and nothing says why; or
it has been found to be in order in every respect: its header names the algorithm that is
expected, its signature fits what stands before it, its claims are complete, and the expiry that
the payload says has not passed (`Accepted`).

Of tokens that are put together from the parts of others none is accepted that has not been
signed as it is.  This takes for granted that signatures tell apart what they are made over and
with, as far as these parts go (`TellsApart`); for signatures in general it would be wrong, since
there are more messages than signatures.
-/
import SessionAuth.Proofs.Service.Authentication
import SessionAuth.Proofs.Service.Schedule
import SessionAuth.Proofs.Token.Claims
import SessionAuth.Proofs.Token.Signature

namespace SessionAuth.Token

open Base64 (encodeChars urlSafe)

/-! ### Accepted tokens -/

/-- Header and claims as they are signed. -/
def messageOf (header claims : Bytes) : List Char :=
  encodeChars urlSafe header ++ '.' :: encodeChars urlSafe claims

/-- A token that is in order in every respect, in three parts. -/
structure Accepted (key : VerificationKey) (algorithm : Algorithm) (now : Instant) (token : String)
    (payload : Payload) (header claims signature : Bytes) : Prop where
  parts : token.toList = messageOf header claims ++ '.' :: encodeChars urlSafe signature
  named : Header.ofJson? header = .ok ⟨algorithm⟩
  signed : key.checks algorithm (Bytes.ofText (String.ofList (messageOf header claims)))
    signature = true
  read : Payload.ofJson? claims = .ok payload
  /-- The claims are an object, in which the subject and both instants are present. -/
  complete : ∃ draft : Payload.Draft, draft.IsReadFrom claims ∧ payload.IsFrom draft
  unexpired : now.seconds ≤ payload.expiresAt

variable {key : VerificationKey} {algorithm : Algorithm} {now : Instant} {token : String}
  {payload : Payload}

theorem accepted_of_open? (h : Codec.open? key algorithm now token = some payload) :
    ∃ header claims signature,
      Accepted key algorithm now token payload header claims signature := by
  obtain ⟨parts, header, ⟨named⟩, claims, hsplit, hheader, hnamed, rfl, haccepts, hclaims,
    hpayload⟩ := Codec.open?_eq_some_iff.mp h
  unfold VerificationKey.accepts at haccepts
  obtain ⟨signature, hsignature, hchecks⟩ := (Option.any_eq_true _ _).mp haccepts
  have hmessage : parts.message = messageOf header claims := by
    rw [Compact.message, Base64.eq_encodeChars_of_decodeChars? hheader,
      Base64.eq_encodeChars_of_decodeChars? hclaims]
    rfl
  obtain ⟨hunexpired, hcomplete⟩ := Codec.isFrom_of_payloadAt? hpayload
  refine ⟨header, claims, signature, ?_, hnamed, hmessage ▸ hchecks,
    (Codec.payloadAt?_eq_some_iff.mp hpayload).1, hcomplete, hunexpired⟩
  rw [← Compact.append_of_split? hsplit, hmessage,
    Base64.eq_encodeChars_of_decodeChars? hsignature]

/-- Three parts are known by the token that they make. -/
theorem parts_inj {header claims signature header' claims' signature' : Bytes}
    (h : messageOf header claims ++ '.' :: encodeChars urlSafe signature =
      messageOf header' claims' ++ '.' :: encodeChars urlSafe signature') :
    header = header' ∧ claims = claims' ∧ signature = signature' := by
  obtain ⟨hmessage, hsignature⟩ := Text.append_cons_inj (Base64.dot_notMem_encodeChars _)
    (Base64.dot_notMem_encodeChars _) h
  obtain ⟨hheader, hclaims⟩ := Text.append_cons_inj (Base64.dot_notMem_encodeChars _)
    (Base64.dot_notMem_encodeChars _) hmessage
  exact ⟨Base64.encodeChars_injective hheader, Base64.encodeChars_injective hclaims,
    Base64.encodeChars_injective hsignature⟩

/-! ### Tokens that somebody has signed -/

/-- Two texts, signed with some key and algorithm as header and payload of a token. -/
structure Signed where
  key : SigningKey
  algorithm : Algorithm
  noise : Noise
  header : String
  payload : String
  signature : Bytes
  made : key.sign algorithm noise (Bytes.ofText (Compact.signedText header payload)) = .ok signature

namespace Signed

/-- The header of one token, the payload of another and the signature of a third. -/
def splice (t u v : Signed) : String :=
  Compact.attach (Compact.signedText t.header u.payload) v.signature

/-- The token itself. -/
def text (t : Signed) : String := splice t t t

/-- The message that is made of the header of one token and the payload of another. -/
def message (t u : Signed) : Bytes := Bytes.ofText (Compact.signedText t.header u.payload)

variable {t u v : Signed}

theorem toList_splice (t u v : Signed) : (splice t u v).toList =
    messageOf (Bytes.ofText t.header) (Bytes.ofText u.payload) ++
      '.' :: encodeChars urlSafe v.signature :=
  Compact.toList_attach

/-- A message that has been signed is that of the token with the signature. -/
theorem splice_eq_text (h : message t u = message v v) : splice t u v = v.text := by
  have htext : Compact.signedText t.header u.payload = Compact.signedText v.header v.payload :=
    Bytes.ofText_injective h
  unfold text splice
  rw [htext]

/-- What is accepted has been made of the parts that it was put together from. -/
theorem parts_of_accepted {header claims signature : Bytes}
    (h : Accepted key algorithm now (splice t u v) payload header claims signature) :
    header = Bytes.ofText t.header ∧ claims = Bytes.ofText u.payload ∧
      signature = v.signature :=
  parts_inj (h.parts.symm.trans (toList_splice t u v))

end Signed

/--
As far as messages go that are made of the parts of some tokens, a key finds only those
signatures right that the signer makes, and signatures of different messages, or with different
keys or algorithms, are different.
-/
structure TellsApart (key : VerificationKey) (algorithm : Algorithm) (signer : SigningKey)
    (tokens : List Signed) : Prop where
  own : ∀ t ∈ tokens, ∀ u ∈ tokens, ∀ v ∈ tokens,
    key.checks algorithm (Signed.message t u) v.signature = true →
      ∃ noise, signer.sign algorithm noise (Signed.message t u) = .ok v.signature
  apart : ∀ t ∈ tokens, ∀ u ∈ tokens, ∀ v ∈ tokens, ∀ noise,
    signer.sign algorithm noise (Signed.message t u) = .ok v.signature →
      Signed.message t u = Signed.message v v ∧ signer = v.key ∧ algorithm = v.algorithm

/-- A splice that is accepted is a token that the signer has signed with the algorithm. -/
theorem TellsApart.genuine {signer : SigningKey} {tokens : List Signed} {t u v : Signed}
    {header claims signature : Bytes} (h : TellsApart key algorithm signer tokens) (ht : t ∈ tokens)
    (hu : u ∈ tokens) (hv : v ∈ tokens)
    (haccepted : Accepted key algorithm now (Signed.splice t u v) payload header claims signature) :
    Signed.splice t u v = v.text ∧ v.key = signer ∧ v.algorithm = algorithm ∧
      Payload.ofJson? (Bytes.ofText v.payload) = .ok payload := by
  obtain ⟨rfl, rfl, rfl⟩ := Signed.parts_of_accepted haccepted
  have hsigned := haccepted.signed
  have hmessage : Bytes.ofText (String.ofList (messageOf (Bytes.ofText t.header)
      (Bytes.ofText u.payload))) = Signed.message t u := by
    unfold Signed.message
    congr 1
    rw [← String.toList_inj]
    simp [messageOf, Compact.signedText, writePart, Base64.encode]
  rw [hmessage] at hsigned
  obtain ⟨noise, hsign⟩ := h.own t ht u hu v hv hsigned
  obtain ⟨hsame, hkey, halgorithm⟩ := h.apart t ht u hu v hv noise hsign
  have htext := Signed.splice_eq_text hsame
  rw [htext] at haccepted
  have hpayload := haccepted.read
  rw [(Signed.parts_of_accepted haccepted).2.1] at hpayload
  exact ⟨htext, hkey.symm, halgorithm.symm, hpayload⟩

/-- A shared key finds a signature right if it makes the same one. -/
theorem sign_of_checks_shared {d : Crypto.Digest} {material message signature : Bytes}
    (h : VerificationKey.checks ⟨.shared, material⟩ (.hmac d) message signature = true)
    (noise : Noise) : SigningKey.sign ⟨.shared, material⟩ (.hmac d) noise message =
      .ok signature := by
  obtain ⟨_, hsame⟩ := Bool.and_eq_true_iff.mp h
  rw [← Bytes.sameAs_iff.mp hsame]
  rfl

end SessionAuth.Token

namespace SessionAuth

open Token (Accepted Algorithm Codec Payload Signed SigningKey TellsApart VerificationKey)

variable {σ : Type} {b : Backend σ} {w : World σ}

/-- What reading a token with a key and an algorithm of choice comes to. -/
def Backend.decoded (b : Backend σ) (w : World σ) (c : Codec) (key : Option VerificationKey)
    (algorithm : Option Algorithm) (token : String) : Except AuthError Payload :=
  (b.runCall (c.decodeWith token key algorithm) w).1

theorem decoded_eq (b : Backend σ) (w : World σ) (c : Codec) (key : Option VerificationKey)
    (algorithm : Option Algorithm) (token : String) :
    b.decoded w c key algorithm token =
      match Codec.open? (key.getD c.verificationKey) (algorithm.getD c.algorithm) w.now token with
      | some payload => .ok payload
      | none => .error .tokenInvalid := by
  have hclock : b.runCall Call.clock w = (.ok w.now, w) := rfl
  unfold Backend.decoded Codec.decodeWith
  rw [Backend.runCall_bind_of_ok hclock]
  cases Codec.open? (key.getD c.verificationKey) (algorithm.getD c.algorithm) w.now token <;> rfl

/--
**A token is accepted if it is in order, and refused as invalid otherwise.**  Of the tokens that
can be put together from the parts of others, those are refused that have not been signed as they
are, by the signer and with the algorithm that is expected, or have expired.
-/
theorem accepted_or_refused (b : Backend σ) (w : World σ) (c : Codec)
    (key : Option VerificationKey) (algorithm : Option Algorithm) :
    (∀ token, (∃ payload header claims signature, b.decoded w c key algorithm token = .ok payload ∧
        Accepted (key.getD c.verificationKey) (algorithm.getD c.algorithm) w.now token payload
          header claims signature) ∨
      b.decoded w c key algorithm token = .error .tokenInvalid) ∧
    ∀ (signer : SigningKey) (tokens : List Signed),
      TellsApart (key.getD c.verificationKey) (algorithm.getD c.algorithm) signer tokens →
      ∀ t ∈ tokens, ∀ u ∈ tokens, ∀ v ∈ tokens,
        b.decoded w c key algorithm (Signed.splice t u v) = .error .tokenInvalid ∨
        Signed.splice t u v = v.text ∧ v.key = signer ∧
          v.algorithm = algorithm.getD c.algorithm ∧
          ∃ payload, b.decoded w c key algorithm (Signed.splice t u v) = .ok payload ∧
            Payload.ofJson? (Bytes.ofText v.payload) = .ok payload ∧
            w.now.seconds ≤ payload.expiresAt := by
  have hfirst : ∀ token, (∃ payload header claims signature,
      b.decoded w c key algorithm token = .ok payload ∧
        Accepted (key.getD c.verificationKey) (algorithm.getD c.algorithm) w.now token payload
          header claims signature) ∨
      b.decoded w c key algorithm token = .error .tokenInvalid := by
    intro token
    rw [decoded_eq]
    cases hopen : Codec.open? (key.getD c.verificationKey) (algorithm.getD c.algorithm) w.now
        token with
    | none => exact Or.inr rfl
    | some payload =>
      obtain ⟨header, claims, signature, haccepted⟩ := Token.accepted_of_open? hopen
      exact Or.inl ⟨payload, header, claims, signature, rfl, haccepted⟩
  refine ⟨hfirst, ?_⟩
  intro signer tokens hapart t ht u hu v hv
  rcases hfirst (Signed.splice t u v) with ⟨payload, _, _, _, hdecoded, haccepted⟩ | hrefused
  · obtain ⟨htext, hkey, halgorithm, hpayload⟩ := hapart.genuine ht hu hv haccepted
    exact Or.inr ⟨htext, hkey, halgorithm, payload, hdecoded, hpayload, haccepted.unexpired⟩
  · exact Or.inl hrefused

namespace Service.Sample

/-- A token for Ada, signed with the key of the sample service and some digest. -/
def signedWith (d : Crypto.Digest) : Signed where
  key := codec.signingKey
  algorithm := .hmac d
  noise := zeros 512
  header := Token.Header.toJson ⟨codec.algorithm⟩
  payload := payload.toJson
  signature := Crypto.hmac d [] (Bytes.ofText (codec.signedText payload))
  made := rfl

/-- The digests of two sizes are told apart by their sizes. -/
theorem tellsApart : TellsApart codec.verificationKey codec.algorithm codec.signingKey
    [signedWith .sha256, signedWith .sha384] where
  own t _ u _ v _ h := ⟨zeros 512, Token.sign_of_checks_shared h (zeros 512)⟩
  apart t ht u hu v hv noise h := by
    simp only [List.mem_cons, List.not_mem_nil, or_false] at ht hu hv
    have hmessage : Signed.message t u = Signed.message v v := by
      rcases ht with rfl | rfl <;> rcases hu with rfl | rfl <;> rcases hv with rfl | rfl <;> rfl
    rcases hv with rfl | rfl
    · exact ⟨hmessage, rfl, rfl⟩
    · have hlength : Crypto.Digest.size .sha384 = Crypto.Digest.size .sha256 :=
        (Crypto.length_hmac .sha384 _ _).symm.trans (SigningKey.length_of_sign_hmac h)
      exact absurd hlength (by decide)

end Service.Sample

/-- The same texts, signed with the same key and another digest, are refused. -/
theorem accepted_or_refused_confused : TellsApart Service.Sample.codec.verificationKey
      Service.Sample.codec.algorithm Service.Sample.codec.signingKey
      [Service.Sample.signedWith .sha256, Service.Sample.signedWith .sha384] ∧
    Deployment.inMemory.decoded Service.Sample.world Service.Sample.codec none none
      (Service.Sample.signedWith .sha384).text = .error .tokenInvalid := by
  refine ⟨Service.Sample.tellsApart, ?_⟩
  have hmember : Service.Sample.signedWith .sha384 ∈
      [Service.Sample.signedWith .sha256, Service.Sample.signedWith .sha384] := by simp
  rcases (accepted_or_refused Deployment.inMemory.toBackend Service.Sample.world
    Service.Sample.codec none none).2 _ _ Service.Sample.tellsApart _ hmember _ hmember _ hmember
    with hrefused | ⟨_, _, halgorithm, _⟩
  · exact hrefused
  · cases halgorithm

end SessionAuth
