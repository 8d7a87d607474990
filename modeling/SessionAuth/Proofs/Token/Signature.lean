/-
How long signatures are.

Signatures under different algorithms differ in length, if nothing else, as far as a shared key
makes them; and no signature of any kind is empty, so that every token has three parts.
-/
import SessionAuth.Token.Signature

namespace SessionAuth

/-- A sequence of checks that passes has passed each of them. -/
theorem exists_of_bind_eq_ok {ε α β : Type} {x : Except ε α} {f : α → Except ε β} {value : β}
    (h : x >>= f = .ok value) : ∃ a, x = .ok a ∧ f a = .ok value := by
  cases x with
  | error e => cases h
  | ok a => exact ⟨a, rfl, h⟩

end SessionAuth

namespace SessionAuth.Crypto

theorem Sha2.length_digest {w : Type} [Inhabited w] [Add w] [XorOp w] [AndOp w] [Complement w]
    (p : Sha2.Width w) (initial : List w) (message : Bytes) :
    (Sha2.digest p initial message).length = 8 * p.wordBytes := by
  simp only [Sha2.digest, Sha2.State.words, List.flatMap_cons, List.flatMap_nil, List.length_append,
    Bytes.length_ofNat, List.length_nil]
  omega

theorem Digest.length_hash (d : Digest) (message : Bytes) : (d.hash message).length = d.size := by
  cases d
  · exact Sha2.length_digest _ _ _
  · show (List.take 48 _).length = 48
    rw [List.length_take, Sha2.length_digest]
    rfl
  · exact Sha2.length_digest _ _ _

theorem length_hmac (d : Digest) (key message : Bytes) : (hmac d key message).length = d.size :=
  d.length_hash _

end SessionAuth.Crypto

namespace SessionAuth.Keys.Rsa

theorem require_eq_ok {condition : Bool} {fault : RsaFault} {done : Unit}
    (h : require condition fault = .ok done) : condition = true := by
  unfold require at h
  split at h
  · assumption
  · cases h

theorem size_of_checkPublic {most least : Nat} {k : Crypto.Rsa.PublicKey} {done : Unit}
    (h : checkPublic most least k = .ok done) : 256 ≤ k.size := by
  obtain ⟨_, _, h⟩ := exists_of_bind_eq_ok h
  obtain ⟨_, hsize, _⟩ := exists_of_bind_eq_ok h
  have hbits := of_decide_eq_true (require_eq_ok hsize)
  omega

/-- A private key that can be used takes 256 bytes at least. -/
theorem size_of_readPrivate {material : Bytes} {k : Crypto.Rsa.PrivateKey}
    (h : readPrivate material = .ok k) : 256 ≤ k.size := by
  unfold readPrivate at h
  split at h
  · cases h
  · rename_i body behind _
    obtain ⟨⟨k', left⟩, hbody, h⟩ := exists_of_bind_eq_ok h
    obtain ⟨_, _, h⟩ := exists_of_bind_eq_ok h
    cases h
    unfold privateBody at hbody
    split at hbody
    · cases hbody
    · obtain ⟨_, _, hbody⟩ := exists_of_bind_eq_ok hbody
      split at hbody
      · obtain ⟨_, hcheck, hbody⟩ := exists_of_bind_eq_ok hbody
        cases hbody
        obtain ⟨_, hpublic, _⟩ := exists_of_bind_eq_ok hcheck
        exact size_of_checkPublic hpublic
      · cases hbody

end SessionAuth.Keys.Rsa

namespace SessionAuth.Token.SigningKey

variable {k : SigningKey} {noise : Noise} {message signature : Bytes}

/-- A signature with a shared key is as long as the digest. -/
theorem length_of_sign_hmac {d : Crypto.Digest}
    (h : k.sign (.hmac d) noise message = .ok signature) : signature.length = d.size := by
  unfold sign at h
  split at h
  · cases h
  · cases h
    exact Crypto.length_hmac d _ _

theorem length_of_signRsa {material : Bytes} {make : Crypto.Rsa.PrivateKey → Option Bytes}
    (hmake : ∀ key signature, make key = some signature → signature.length = key.size)
    (h : signRsa material make = .ok signature) : 256 ≤ signature.length := by
  unfold signRsa at h
  split at h
  · cases h
  · rename_i key hkey
    split at h
    · rename_i made hmade
      cases h
      rw [hmake key _ hmade]
      exact Keys.Rsa.size_of_readPrivate hkey
    · cases h

theorem length_of_signCurve {c : Crypto.Weierstrass.Curve} {material : Bytes}
    (h : signCurve c material noise message = .ok signature) :
    signature.length = 2 * c.size := by
  unfold signCurve at h
  split at h
  · cases h
    simp only [Crypto.Weierstrass.Curve.sign, List.length_append, Bytes.length_ofNat]
    omega
  · cases h

/-- No signature is empty. -/
theorem length_pos_of_sign {algorithm : Algorithm}
    (h : k.sign algorithm noise message = .ok signature) : 0 < signature.length := by
  have hblock : ∀ (key : Crypto.Rsa.PrivateKey) (block made : Bytes), key.sign? block = some made →
      made.length = key.size := by
    intro key block made hmade
    simp only [Crypto.Rsa.PrivateKey.sign?] at hmade
    split at hmade
    · cases hmade
      exact Bytes.length_ofNat _ _
    · cases hmade
  cases algorithm with
  | hmac d =>
    rw [length_of_sign_hmac h]
    cases d <;> decide
  | rsaPkcs1 d | rsaPss d =>
    unfold sign at h
    split at h
    · cases h
    · have hlength := length_of_signRsa (fun key made hmade => hblock key _ made hmade) h
      omega
  | es256 | es384 =>
    unfold sign at h
    split at h
    · cases h
    · rw [length_of_signCurve h]
      decide
  | edDsa =>
    unfold sign at h
    split at h
    · cases h
    · dsimp only at h
      cases hseed : Keys.Pkcs8.edwardsSeed? k.material with
      | none => rw [hseed] at h; cases h
      | some seed =>
        rw [hseed] at h
        cases h
        simp only [Crypto.Edwards.sign, List.length_append, Bytes.length_ofNatLittle]
        omega

end SessionAuth.Token.SigningKey
