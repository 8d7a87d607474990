/-
Reading back tokens that were made.

A codec that can check its own signatures reads every token that it has made, as what it
was made to say, from the second in which it was made until the second in which it
expires, and not any longer.  The texts of a token are objects in JSON, so what has to be
shown is which members of them each of the two passes over the claims reads and which it
skips.
-/
import SessionAuth.Proofs.Json.Written
import SessionAuth.Proofs.Token.Codec

namespace SessionAuth.Token

open Json (Takes Fills)

/-! ### The header -/

namespace Header

/-- A header is read as it was written. -/
theorem ofJson?_toJson (h : Header) : ofJson? (Bytes.ofText h.toJson) = .ok h := by
  have hname : Algorithm.ofName? h.algorithm.name = some h.algorithm := by
    have hall : ∀ a ∈ Algorithm.all, Algorithm.ofName? a.name = some a := by decide +kernel
    exact hall _ (Algorithm.mem_all _)
  have halgorithm : Fills fields ⟨none, ["typ"]⟩ [("alg", Json.string h.algorithm.name)]
      ⟨some h.algorithm, ["typ"]⟩ :=
    .read rfl rfl (fun rest hrest => Json.bind_of_ok (Json.takes_choice hname rest hrest)) (.nil _)
  have hfills : Fills fields {} [("typ", Json.string "JWT"), ("alg", Json.string h.algorithm.name)]
      ⟨some h.algorithm, ["typ"]⟩ :=
    .read rfl rfl (fun rest hrest => Json.bind_of_ok (Json.takes_nullable_text "JWT" rest hrest))
      halgorithm
  have hread : Json.record fields {} (fun d => d.algorithm.map Header.mk)
      (Bytes.ofText h.toJson ++ []) = .ok (h, []) := Json.record_object hfills rfl
  rw [List.append_nil] at hread
  exact Json.run?_whole hread

end Header

/-! ### The payload -/

namespace Payload

variable {d last : Draft} {more : List (String × String)}

theorem fills_subject (text : String) (hnew : d.subject = none)
    (hmore : Fills fields { d with subject := some text } more last) :
    Fills fields d (("sub", Json.string text) :: more) last :=
  .read rfl (by simp [hnew]) (fun rest hrest => Json.bind_of_ok (Json.takes_text text rest hrest))
    hmore

theorem fills_kind (kind : Option Kind) (hnew : d.kind = none)
    (hmore : Fills fields { d with kind := kind.map some } more last) :
    Fills fields d ((kind.map fun k => ("type", Json.string k.name)).toList ++ more) last := by
  cases kind with
  | none =>
    obtain ⟨_, _, _, _, _⟩ := d
    cases hnew
    exact hmore
  | some k =>
    have hname : Kind.ofName? k.name = some k := by cases k <;> rfl
    exact .read rfl (by simp [hnew])
      (fun rest hrest => Json.bind_of_ok (Json.takes_nullable_choice hname rest hrest)) hmore

theorem fills_issuedAt {second : Int} (hlow : -limit63 ≤ second) (hhigh : second < limit63)
    (hnew : d.issuedAt = none)
    (hmore : Fills fields { d with issuedAt := some second } more last) :
    Fills fields d (("iat", toString second) :: more) last :=
  .read rfl (by simp [hnew])
    (fun rest hrest => Json.bind_of_ok (Json.takes_integer hlow hhigh rest hrest)) hmore

theorem fills_expiresAt {second : Int} (hlow : -limit63 ≤ second) (hhigh : second < limit63)
    (hnew : d.expiresAt = none)
    (hmore : Fills fields { d with expiresAt := some second } more last) :
    Fills fields d (("exp", toString second) :: more) last :=
  .read rfl (by simp [hnew])
    (fun rest hrest => Json.bind_of_ok (Json.takes_integer hlow hhigh rest hrest)) hmore

theorem fills_id (id : Option String) (hnew : d.id = none) :
    Fills fields d (id.map fun id => ("jti", Json.string id)).toList
      { d with id := id.map some } := by
  cases id with
  | none =>
    obtain ⟨_, _, _, _, _⟩ := d
    cases hnew
    exact .nil _
  | some id =>
    exact .read rfl (by simp [hnew])
      (fun rest hrest => Json.bind_of_ok (Json.takes_nullable_text id rest hrest)) (.nil _)

/-- The members of a written payload behind the subject. -/
def moreMembers (p : Payload) : List (String × String) :=
  (p.kind.map fun k => ("type", Json.string k.name)).toList ++
    ("iat", toString p.issuedAt) :: ("exp", toString p.expiresAt) ::
      (p.id.map fun id => ("jti", Json.string id)).toList

theorem toJson_eq (p : Payload) :
    p.toJson = Json.object (("sub", Json.string p.subject) :: p.moreMembers) := by
  simp [toJson, moreMembers]

/-- Both instants of a payload fit 63 bits and a sign. -/
structure InRange (p : Payload) : Prop where
  issuedLow : -limit63 ≤ p.issuedAt
  issuedHigh : p.issuedAt < limit63
  expiresLow : -limit63 ≤ p.expiresAt
  expiresHigh : p.expiresAt < limit63

/-- A payload is read as it was written. -/
theorem ofJson?_toJson {p : Payload} (h : p.InRange) :
    ofJson? (Bytes.ofText p.toJson) = .ok p := by
  have hfills : Fills fields {} (("sub", Json.string p.subject) :: p.moreMembers)
      ⟨some p.subject, p.kind.map some, some p.issuedAt, some p.expiresAt, p.id.map some⟩ :=
    fills_subject _ rfl (fills_kind _ rfl (fills_issuedAt h.issuedLow h.issuedHigh rfl
      (fills_expiresAt h.expiresLow h.expiresHigh rfl (fills_id _ rfl))))
  have hdraft : ofDraft? ⟨some p.subject, p.kind.map some, some p.issuedAt, some p.expiresAt,
      p.id.map some⟩ = some p := by
    obtain ⟨subject, kind, issuedAt, expiresAt, id⟩ := p
    cases kind <;> cases id <;> rfl
  have hread : Json.record fields {} ofDraft? (Bytes.ofText p.toJson ++ []) = .ok (p, []) := by
    rw [toJson_eq]
    exact Json.record_object hfills hdraft
  rw [List.append_nil] at hread
  exact Json.run?_whole hread

end Payload

/-! ### Conditions -/

namespace Conditions

variable {d last : Draft} {more : List (String × String)}

/-- What is read without a stop is read when a stop would be put up with, too. -/
theorem attempt_of_ok {r : Json.Reader α} {bytes : Bytes} (a : α) (rest : Bytes)
    (h : r bytes = .ok (a, rest)) : Json.Reader.attempt r bytes = .ok (some a, rest) := by
  unfold Json.Reader.attempt
  rw [h]

/-- A time is read, unless it lies before the beginning of time. -/
theorem takes_time {second : Int} (hlow : 0 ≤ second) (hhigh : second < limit63) :
    Takes time (toString second) (some second.toNat) := by
  intro rest hrest
  have hlimit : second.toNat < limit64 := by
    unfold limit63 at hhigh
    unfold limit64
    omega
  have hread := Json.number_decimals hlimit hrest
  obtain ⟨first, digits, hcons, hdigit⟩ := Json.decimals_cons second.toNat
  rw [Json.ofText_int, if_pos hlow]
  rw [hcons, List.cons_append] at hread ⊢
  unfold time
  rw [Json.bind_of_ok (Json.peek_cons (Json.isSpace_of_isDigit hdigit))]
  refine (Json.bind_of_ok (attempt_of_ok (some second.toNat) rest ?_)).trans rfl
  rw [if_pos (Or.inr hdigit), Json.bind_of_ok hread]
  dsimp only
  rw [if_pos (Int.natCast_nonneg _)]
  rfl

/-- A text is read as a value. -/
theorem takes_value (text : String) : Takes value (Json.string text) (.text text) := by
  intro rest hrest
  rw [Json.ofText_string_append]
  unfold value
  refine (Json.bind_of_ok (attempt_of_ok (Json.Value.text text) rest ?_)).trans rfl
  unfold Json.Value.depthLimit Json.Value.reader
  rw [Json.bind_of_ok (Json.peek_cons (by decide)), if_neg (by decide), if_neg (by decide),
    if_pos rfl, Json.bind_of_ok (r := Json.drop) rfl, List.tail_cons,
    Json.bind_of_ok (Json.stringBody_closed text)]
  rfl

/-- Behind the subject, the only condition that a payload states is when it expires. -/
theorem fills_moreMembers {p : Payload} (hlow : 0 ≤ p.expiresAt) (hhigh : p.expiresAt < limit63)
    (hnew : d.expires = none) :
    Fills fields d p.moreMembers { d with expires := some (some p.expiresAt.toNat) } := by
  have hid : ∀ d, Fills fields d (p.id.map fun id => ("jti", Json.string id)).toList d := by
    intro d
    cases p.id with
    | none => exact .nil _
    | some id => exact .skip rfl (Json.takes_skipValue_string id) (.nil _)
  have htimes : Fills fields d (("iat", toString p.issuedAt) :: ("exp", toString p.expiresAt) ::
      (p.id.map fun id => ("jti", Json.string id)).toList)
      { d with expires := some (some p.expiresAt.toNat) } :=
    .skip rfl (Json.takes_skipValue_int _) (.read rfl (by simp [hnew])
      (fun rest hrest => Json.bind_of_ok (takes_time hlow hhigh rest hrest)) (hid _))
  unfold Payload.moreMembers
  cases p.kind with
  | none => exact htimes
  | some kind => exact .skip rfl (Json.takes_skipValue_string kind.name) htimes

/-- The only condition that a payload states is when it expires. -/
theorem ofJson?_payload {p : Payload} (hlow : 0 ≤ p.expiresAt) (hhigh : p.expiresAt < limit63) :
    ofJson? (Bytes.ofText p.toJson) = .ok ⟨some p.expiresAt.toNat, false⟩ := by
  have hfills : Fills fields {} (("sub", Json.string p.subject) :: p.moreMembers)
      { expires := some (some p.expiresAt.toNat), subject := some (.text p.subject) } :=
    .read rfl rfl (fun rest hrest => Json.bind_of_ok (takes_value p.subject rest hrest))
      (fills_moreMembers hlow hhigh rfl)
  have hread : Json.record fields {} (fun d => some (ofDraft d)) (Bytes.ofText p.toJson ++ []) =
      .ok (⟨some p.expiresAt.toNat, false⟩, []) := by
    rw [Payload.toJson_eq]
    exact Json.record_object hfills rfl
  have hobject : ∃ rest, Bytes.ofText p.toJson = Json.code '\x7b' :: rest := by
    rw [Payload.toJson_eq, ← List.append_nil (Bytes.ofText _), Json.ofText_object_append]
    exact ⟨_, rfl⟩
  rw [List.append_nil] at hread
  obtain ⟨rest, hbytes⟩ := hobject
  refine Json.run?_whole ?_
  rw [hbytes] at hread ⊢
  unfold reader
  rw [Json.bind_of_ok (Json.peek_cons (by decide)), if_neg (by decide)]
  exact hread

end Conditions

/-! ### Tokens -/

namespace Codec

variable {c : Codec} {now later expiry : Instant} {id : UserId} {noise : Noise}
  {subject token : String} {kind : Option Kind} {o : Overrides}

/-- A written payload is read up to the second in which it expires. -/
theorem payloadAt?_toJson {p : Payload} (h : p.InRange) (hpositive : 0 ≤ p.expiresAt)
    (second : Int) : payloadAt? second (Bytes.ofText p.toJson) =
      if second ≤ p.expiresAt then some p else none := by
  have hallow : (Conditions.mk (some p.expiresAt.toNat) false).allow second =
      decide (second ≤ p.expiresAt) := by
    show (true && decide (second ≤ (p.expiresAt.toNat : Int))) = _
    rw [Int.toNat_of_nonneg hpositive, Bool.true_and]
  unfold payloadAt?
  rw [Payload.ofJson?_toJson h, Conditions.ofJson?_payload hpositive h.expiresHigh]
  simp only [Except.toOption, Option.bind_eq_bind, Option.bind_some, hallow, decide_eq_true_eq]
  rfl

/-- What the codec signs it accepts as signed. -/
def ChecksOwn (c : Codec) : Prop := ∀ noise message signature,
  c.signingKey.sign c.algorithm noise message = .ok signature →
    c.verificationKey.checks c.algorithm message signature = true

/-- A shared key checks what it has signed. -/
theorem checksOwn_shared {d : Crypto.Digest} (halgorithm : c.algorithm = .hmac d)
    (hkey : c.verificationKey = ⟨.shared, c.signingKey.material⟩) : c.ChecksOwn := by
  intro noise message signature h
  rw [halgorithm] at h ⊢
  unfold SigningKey.sign at h
  split at h
  · cases h
  · cases h
    rw [hkey, VerificationKey.checks, Bool.and_eq_true]
    exact ⟨rfl, Bytes.sameAs_iff.mpr rfl⟩

/-- The texts that the token with a payload is made of. -/
def signedText (c : Codec) (payload : Payload) : String :=
  Compact.signedText (Header.toJson ⟨c.algorithm⟩) payload.toJson

/-- A token that was made is its texts with a signature of the codec. -/
theorem signed_of_mint (hkey : o.key = none) (halgorithm : o.algorithm = none)
    (h : c.mint now id noise subject kind o = .ok (expiry, token)) :
    ∃ signature, c.signingKey.sign c.algorithm noise
        (Bytes.ofText (c.signedText (c.payloadOf now id subject kind o))) = .ok signature ∧
      token = Compact.attach (c.signedText (c.payloadOf now id subject kind o)) signature := by
  unfold mint at h
  rw [hkey, halgorithm] at h
  simp only [Option.getD_none] at h
  split at h
  · cases h
  · split at h
    · cases h
    · split at h
      · cases h
      · unfold signText at h
        simp only at h
        split at h
        · rename_i signature hsign
          cases h
          exact ⟨signature, hsign, rfl⟩
        · cases h

/-- A token whose texts can be read is as good as its signature. -/
theorem open?_attach {payload : Payload} {signature : Bytes}
    (h : c.verificationKey.checks c.algorithm (Bytes.ofText (c.signedText payload)) signature =
      true) :
    open? c.verificationKey c.algorithm now (Compact.attach (c.signedText payload) signature) =
      payloadAt? now.seconds (Bytes.ofText payload.toJson) := by
  have hmessage : String.ofList (Base64.encodeChars Base64.urlSafe
      (Bytes.ofText (Header.toJson ⟨c.algorithm⟩)) ++
        '.' :: Base64.encodeChars Base64.urlSafe (Bytes.ofText payload.toJson)) =
      c.signedText payload := by
    rw [← String.toList_inj]
    simp [signedText, Compact.signedText, writePart, Base64.encode]
  have haccepts : c.verificationKey.accepts c.algorithm (Bytes.ofText (c.signedText payload))
      (Base64.encodeChars Base64.urlSafe signature) = true := by
    unfold VerificationKey.accepts
    rw [Base64.decodeChars?_encodeChars]
    exact h
  unfold open?
  rw [signedText, Compact.split?_attach]
  simp only [Option.bind_eq_bind, Option.bind_some, readPart?, Base64.decodeChars?_encodeChars,
    Header.ofJson?_toJson, Except.toOption, Compact.message, hmessage, haccepts, and_self, if_true]

theorem inRange_of_mint (hfirst : Instant.firstSecond ≤ now.seconds)
    (h : c.mint now id noise subject kind o = .ok (expiry, token)) :
    (c.payloadOf now id subject kind o).InRange := by
  have hpositive := (mint_eq_ok h).1
  have hlast := le_lastSecond_of_mint h
  unfold Instant.firstSecond at hfirst
  unfold Instant.lastSecond at hlast
  refine ⟨?_, ?_, ?_, ?_⟩ <;> unfold payloadOf limit63 <;> dsimp only <;> omega

/-- **A token that was made is read as what it says, until it expires.** -/
theorem open?_mint (hown : c.ChecksOwn) (hkey : o.key = none) (halgorithm : o.algorithm = none)
    (h : c.mint now id noise subject kind o = .ok (expiry, token))
    (hfirst : Instant.firstSecond ≤ now.seconds)
    (hpositive : 0 ≤ now.seconds + c.lifetimeSeconds kind o) (later : Instant) :
    open? c.verificationKey c.algorithm later token =
      if later.seconds ≤ now.seconds + c.lifetimeSeconds kind o then
        some (c.payloadOf now id subject kind o)
      else none := by
  obtain ⟨signature, hsign, rfl⟩ := signed_of_mint hkey halgorithm h
  rw [open?_attach (hown _ _ _ hsign)]
  exact payloadAt?_toJson (inRange_of_mint hfirst h) hpositive later.seconds

/-- A token is read as soon as it is made. -/
theorem open?_at_once (hown : c.ChecksOwn) (hkey : o.key = none) (halgorithm : o.algorithm = none)
    (h : c.mint now id noise subject kind o = .ok (expiry, token)) (hnow : 0 ≤ now.seconds) :
    open? c.verificationKey c.algorithm now token = some (c.payloadOf now id subject kind o) := by
  have hpositive := (mint_eq_ok h).1
  have hfirst : Instant.firstSecond ≤ now.seconds := by
    unfold Instant.firstSecond
    omega
  rw [open?_mint hown hkey halgorithm h hfirst (by omega)]
  exact if_pos (by omega)

/-- What a token says, whoever has signed it and whenever it is read. -/
def claims? (token : String) : Option Payload := do
  let parts ← Compact.split? token
  let claims ← readPart? parts.payload
  (Payload.ofJson? claims).toOption

/-- A token says what it was made to say. -/
theorem claims?_mint (h : c.mint now id noise subject kind o = .ok (expiry, token))
    (hfirst : Instant.firstSecond ≤ now.seconds) :
    claims? token = some (c.payloadOf now id subject kind o) := by
  have hread := Payload.ofJson?_toJson (inRange_of_mint hfirst h)
  obtain ⟨_, _, signature, rfl⟩ := mint_eq_ok h
  unfold claims?
  rw [Compact.split?_attach]
  simp only [Option.bind_eq_bind, Option.bind_some, readPart?, Base64.decodeChars?_encodeChars,
    hread, Except.toOption]

end Codec

end SessionAuth.Token
