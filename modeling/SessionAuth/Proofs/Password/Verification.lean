/-
What a hash verifies.

A new hash names the kind, the version, the costs and the salt that its tag was computed with, and
all of it is read back as it was written (`read?_write`).  So a hash verifies a password if and only
if the tag of that password, computed with the same salt and costs, is the one that was stored.
How tags are computed makes no difference to this (`hash_verifies`); what a tag function that can
tell two passwords apart adds is that their normal forms are then the same.
-/
import Mathlib.Data.Set.Function
import SessionAuth.Password.Hasher
import SessionAuth.Proofs.Bytes.Text
import SessionAuth.Proofs.Crypto.Argon2
import SessionAuth.Proofs.Password.Format

namespace SessionAuth.Password

open Crypto (Argon2.Kind Argon2.Version Argon2.Cost Argon2.Input)

/-! ### Written hashes -/

namespace Phc

/-- The fields of a hash that is written. -/
def written (kind : String) (version : Argon2.Version) (cost : Argon2.Cost) (salt tag : Bytes) :
    Phc where
  algorithm := kind
  version := some version.number
  parameters := [("m", toString cost.memory), ("t", toString cost.passes),
    ("p", toString cost.lanes)]
  salt := some (Base64.encode phcBase64 salt)
  hash := some tag

variable {kind : String} {version : Argon2.Version} {cost : Argon2.Cost} {salt tag : Bytes}

theorem write_eq (kind : String) (version : Argon2.Version) (cost : Argon2.Cost)
    (salt tag : Bytes) :
    write kind version cost salt tag = (written kind version cost salt tag).text := by
  refine String.toList_inj.mp ?_
  unfold write
  simp [text, fields, lastFields, parametersFields, parametersText, parameterText, endFields,
    versionText, written, Base64.encode, List.intercalate_cons_cons]

theorem areParameters_written (hmemory : cost.memory < limit32) (hpasses : cost.passes < limit32)
    (hlanes : cost.lanes < limit32) :
    AreParameters (written kind version cost salt tag).parameters := by
  have hnames : ∀ p ∈ (written kind version cost salt tag).parameters, IsName p.1 := by
    simp only [written, List.forall_mem_cons]
    exact ⟨by decide, by decide, by decide, List.forall_mem_nil _⟩
  have hvalues : ∀ p ∈ (written kind version cost salt tag).parameters, IsValue p.2 := by
    simp only [written, List.forall_mem_cons]
    exact ⟨isValue_toString hmemory, isValue_toString hpasses, isValue_toString hlanes,
      List.forall_mem_nil _⟩
  have hdigits : ∀ {n}, n < limit32 → (toString n).toList.length ≤ 10 := by
    intro n hn
    rw [toList_toString, Nat.length_toDigits_le_iff (by decide) (by decide)]
    exact hn.trans (by decide)
  refine ⟨hnames, hvalues, ?_⟩
  rw [Bytes.length_ofText_of_ascii, String.toList_ofList]
  · have hm := hdigits hmemory
    have ht := hdigits hpasses
    have hp := hdigits hlanes
    simp only [written, parametersText, parameterText, List.map_cons, List.map_nil,
      List.intercalate_cons_cons, List.intercalate_singleton, List.length_append,
      List.length_cons, List.length_nil]
    have hletters : "m".toList.length = 1 ∧ "t".toList.length = 1 ∧ "p".toList.length = 1 := by
      decide
    omega
  · intro c hc
    rw [String.toList_ofList] at hc
    rcases mem_parametersText hnames hvalues hc with rfl | rfl | hvalue
    · decide
    · decide
    · exact ascii_of_isValueChar hvalue

/-- A hash that is written is sound, if there is room for its salt and its tag. -/
theorem isSound_written (hkind : IsName kind) (hmemory : cost.memory < limit32)
    (hpasses : cost.passes < limit32) (hlanes : cost.lanes < limit32) (hsalt : 3 ≤ salt.length)
    (hsalt' : salt.length ≤ 48) (htag : IsHash tag) :
    (written kind version cost salt tag).IsSound where
  algorithm := hkind
  version n hn := by
    cases hn
    cases version <;> decide
  parameters := areParameters_written hmemory hpasses hlanes
  ends := by
    refine .hashed ⟨?_, ?_, ?_⟩ htag <;> rw [Base64.encode, String.toList_ofList]
    · rw [Base64.length_encodeChars rfl]
      omega
    · rw [Base64.length_encodeChars rfl]
      omega
    · exact fun c => isValueChar_of_mem_encodeChars
  versionless h := by cases h

end Phc

/-! ### Reading a hash back -/

namespace Hasher

variable {kind : Argon2.Kind} {version : Argon2.Version} {cost : Argon2.Cost} {salt tag : Bytes}

theorem addParameter_number {known : Argon2.Cost} {associated : Bytes} {n : Nat}
    (h : n < limit32) :
    addParameter (known, associated) ("m", toString n) =
        some ({ known with memory := n }, associated) ∧
      addParameter (known, associated) ("t", toString n) =
        some ({ known with passes := n }, associated) ∧
      addParameter (known, associated) ("p", toString n) =
        some ({ known with lanes := n }, associated) := by
  have hn := Phc.decimal?_eq_some_iff.mpr ⟨rfl, h⟩
  unfold addParameter
  dsimp only
  rw [hn]
  exact ⟨rfl, rfl, rfl⟩

theorem bounds_of_isValid (h : cost.isValid = true) : cost.memory < limit32 ∧
    cost.passes < limit32 ∧ cost.lanes < limit32 := by
  unfold Argon2.Cost.isValid at h
  simp only [Bool.and_eq_true, decide_eq_true_eq] at h
  have : limit24 ≤ limit32 := by decide
  exact ⟨by omega, by omega, by omega⟩

/-- **A hash that is written is read back**, with everything that it was computed from. -/
theorem read?_write (hcost : cost.isValid = true) (hsalt : 8 ≤ salt.length)
    (hsalt' : salt.length ≤ 48) (htag : Phc.IsHash tag) (hlength : tag.length = cost.tagBytes) :
    (Phc.parse? (Phc.write (kindName kind) version cost salt tag)).bind read? =
      some (⟨kind, version, cost, salt, []⟩, tag) := by
  obtain ⟨hmemory, hpasses, hlanes⟩ := bounds_of_isValid hcost
  have hkind : Phc.IsName (kindName kind) := by cases kind <;> decide
  have hsound : (Phc.written (kindName kind) version cost salt tag).IsSound :=
    Phc.isSound_written hkind hmemory hpasses hlanes (by omega) hsalt' htag
  rw [Phc.write_eq, Phc.parse?_text hsound, Option.bind_some]
  have hkind' : kind? (kindName kind) = some kind := by cases kind <;> rfl
  have hversion : version? (some version.number) = some version := by cases version <;> rfl
  have hparameters : [("m", toString cost.memory), ("t", toString cost.passes),
      ("p", toString cost.lanes)].foldlM addParameter (defaultCost, []) =
        some ({ cost with tagBytes := defaultCost.tagBytes }, []) := by
    rw [List.foldlM_cons, (addParameter_number hmemory).1]
    show List.foldlM addParameter _ _ = _
    rw [List.foldlM_cons, (addParameter_number hpasses).2.1]
    show List.foldlM addParameter _ _ = _
    rw [List.foldlM_cons, (addParameter_number hlanes).2.2]
    rfl
  have hread : Base64.decodeChars? phcBase64 (Base64.encode phcBase64 salt).toList = some salt := by
    rw [Base64.encode, String.toList_ofList, Base64.decodeChars?_encodeChars]
  have hsame : { cost with tagBytes := tag.length } = cost := by rw [hlength]
  unfold read? Phc.written
  simp only [Option.bind_eq_bind, Option.bind_some, hkind', hversion, hparameters, hread, hsame]
  rw [if_pos ⟨hcost, hsalt⟩]
  rfl

/-! ### Verifying -/

variable {tag : TagFunction} {fresh : BitVec 128}

/-- The tag of a new hash is compared with the tag of the password for the same salt. -/
theorem verifyWith_hashWith (htag : ∀ password, (tag (newInput fresh) password).length = 32)
    (h h' : Hasher) (a b : ClearText) :
    h'.verifyWith tag (h.hashWith tag fresh a) b = true ↔
      tag (newInput fresh) (a.peppered h.pepper) = tag (newInput fresh) (b.peppered h'.pepper) := by
  have hlength := htag (a.peppered h.pepper)
  have hsalt : (newInput fresh).salt.length = 16 := Bytes.length_ofNat 16 fresh.toNat
  have hread : (Phc.parse? (h.hashWith tag fresh a)).bind read? =
      some (newInput fresh, tag (newInput fresh) (a.peppered h.pepper)) :=
    read?_write (show defaultCost.isValid = true by decide) (by omega) (by omega)
      ⟨by omega, by omega⟩ hlength
  unfold verifyWith
  rw [hread]
  exact Bytes.sameAs_iff.trans eq_comm

/-- What is no stored hash verifies nothing. -/
theorem verifyWith_of_not_wellFormed {text : String} (h : ¬ Phc.WellFormed text) (hasher : Hasher)
    (password : ClearText) : hasher.verifyWith tag text password = false := by
  unfold verifyWith
  rw [Phc.parse?_eq_none_iff.mpr h]
  rfl

/-- The bytes of a typed password: its normal form, with the pepper behind it. -/
def bytesOf (h : Hasher) (typed : String) : Bytes :=
  Bytes.ofText (Text.Compatibility.normalize typed) ++ h.pepper.getD []

/-- One hasher takes a password for the one that another has hashed. -/
def Takes (tag : TagFunction) (fresh : BitVec 128) (h h' : Hasher) (a b : String) : Prop :=
  h'.verifyWith tag (h.hashWith tag fresh (.ofTyped a)) (.ofTyped b) = true

theorem takes_iff (htag : ∀ password, (tag (newInput fresh) password).length = 32) (h h' : Hasher)
    (a b : String) : Takes tag fresh h h' a b ↔
      tag (newInput fresh) (h.bytesOf a) = tag (newInput fresh) (h'.bytesOf b) :=
  verifyWith_hashWith htag h h' (.ofTyped a) (.ofTyped b)

/-- With the same pepper the bytes are the same for the same normal forms only. -/
theorem bytesOf_eq_iff (h : Hasher) {a b : String} : h.bytesOf a = h.bytesOf b ↔
    Text.Compatibility.normalize a = Text.Compatibility.normalize b := by
  unfold bytesOf
  rw [List.append_left_inj, Bytes.ofText_injective.eq_iff]

/-- A tag function that tells the inputs apart takes nothing for what it is not. -/
theorem takes_iff_of_injOn (htag : ∀ password, (tag (newInput fresh) password).length = 32)
    {h h' : Hasher} {a b : String} {inputs : Set Bytes}
    (hinj : Set.InjOn (tag (newInput fresh)) inputs) (ha : h.bytesOf a ∈ inputs)
    (hb : h'.bytesOf b ∈ inputs) : Takes tag fresh h h' a b ↔ h.bytesOf a = h'.bytesOf b := by
  rw [takes_iff htag]
  exact hinj.eq_iff ha hb

/--
**A hash verifies exactly what it should.**  For every tag function with tags of 32 bytes, all
peppers, every salt, and all passwords that are typed: the hash of one verifies the other if and
only if their tags are the same, so with the same pepper always if their normal forms are the same.
If the tag function tells the inputs apart the hash verifies nothing else; and with another pepper
it verifies those passwords alone that give the same bytes together with it.  A text that is not
well formed verifies no password at all.
-/
theorem hash_verifies (tag : TagFunction) (fresh : BitVec 128)
    (htag : ∀ password, (tag (newInput fresh) password).length = 32) (h : Hasher) :
    (∀ (h' : Hasher) (a b : String), Takes tag fresh h h' a b ↔
      tag (newInput fresh) (h.bytesOf a) = tag (newInput fresh) (h'.bytesOf b)) ∧
    (∀ a b, Text.Compatibility.normalize a = Text.Compatibility.normalize b →
      Takes tag fresh h h a b) ∧
    (∀ inputs : Set Bytes, Set.InjOn (tag (newInput fresh)) inputs →
      (∀ a b, h.bytesOf a ∈ inputs → h.bytesOf b ∈ inputs →
        (Takes tag fresh h h a b ↔
          Text.Compatibility.normalize a = Text.Compatibility.normalize b)) ∧
      ∀ (h' : Hasher) (a b : String), h.bytesOf a ∈ inputs → h'.bytesOf b ∈ inputs →
        (Takes tag fresh h h' a b ↔ h.bytesOf a = h'.bytesOf b)) ∧
    ∀ text, ¬ Phc.WellFormed text → ∀ password, h.verifyWith tag text password = false := by
  refine ⟨takes_iff htag h, fun a b hsame => ?_,
    fun inputs hinj => ⟨fun a b ha hb => ?_, fun h' a b => takes_iff_of_injOn htag hinj⟩,
    fun text htext => verifyWith_of_not_wellFormed htext h⟩
  · rw [takes_iff htag, h.bytesOf_eq_iff.mpr hsame]
  · rw [takes_iff_of_injOn htag hinj ha hb, h.bytesOf_eq_iff]

namespace Sample

/-- The last 32 bytes of a password, with zeros in front if there are not as many. -/
def ending : TagFunction := fun _ password =>
  ((List.replicate 32 0 ++ password).reverse.take 32).reverse

theorem length_ending (input : Argon2.Input) (password : Bytes) :
    (ending input password).length = 32 := by
  unfold ending
  rw [List.length_reverse, List.length_take, List.length_reverse, List.length_append,
    List.length_replicate]
  omega

/-- A hasher with a pepper. -/
def seasoned : Hasher := ⟨some (Bytes.ofText "salt")⟩

end Sample

open Sample in
/-- With Argon2 a hash verifies its own password; where tags tell them apart, no other one. -/
theorem hash_verifies_own :
    Takes Crypto.Argon2.hash 7 seasoned seasoned "secret" "secret" ∧
    ¬ Takes ending 7 seasoned seasoned "a" "b" ∧ ¬ Takes ending 7 seasoned {} "a" "a" ∧
    ∀ password, seasoned.verifyWith Crypto.Argon2.hash "not_a_valid_hash" password = false := by
  obtain ⟨_, hsame, _, hmalformed⟩ := hash_verifies Crypto.Argon2.hash 7
    (Crypto.Argon2.length_hash (newInput 7)) seasoned
  obtain ⟨_, _, hapart, _⟩ := hash_verifies ending 7 (length_ending (newInput 7)) seasoned
  have ha : seasoned.bytesOf "a" = Bytes.ofText "asalt" := by decide
  have hb : seasoned.bytesOf "b" = Bytes.ofText "bsalt" := by decide
  have hplain : Hasher.bytesOf {} "a" = Bytes.ofText "a" := by decide
  have hletters : Set.InjOn (ending (newInput 7)) {Bytes.ofText "asalt", Bytes.ofText "bsalt"} :=
    Set.injOn_pair.mpr fun hsame => absurd hsame (by decide)
  have hpeppers : Set.InjOn (ending (newInput 7)) {Bytes.ofText "asalt", Bytes.ofText "a"} :=
    Set.injOn_pair.mpr fun hsame => absurd hsame (by decide)
  refine ⟨hsame _ _ rfl, ?_, ?_, hmalformed _ (Phc.parse?_eq_none_iff.mp (by decide))⟩
  · rw [(hapart _ hletters).1 "a" "b" (.inl ha) (.inr hb)]
    decide
  · rw [(hapart _ hpeppers).2 {} "a" "a" (.inl ha) (.inr hplain), ha, hplain]
    decide

end Hasher

end SessionAuth.Password
