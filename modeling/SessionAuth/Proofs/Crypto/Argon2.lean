/-
How long a tag is.

The last block of the memory is hashed to any number of bytes: a short hash is cut from the words
of the chain, of which there are always eight, and a long one is put together from halves of short
ones.  So a tag has the length that its costs ask for.
-/
import SessionAuth.Crypto.Argon2

namespace SessionAuth.Crypto

namespace Blake2b

theorem length_compress {h : Chain} (hh : h.length = 8) (block : Bytes) (count : Nat)
    (last : Bool) : (compress h block count last).length = 8 := by
  unfold compress
  simp only [List.length_zipWith, List.length_take, List.length_drop, hh]
  rfl

/-- The chain has eight words, however many blocks are taken in. -/
theorem length_absorb {h : Chain} (hh : h.length = 8) (count : Nat) (blocks : List Bytes) :
    (absorb h count blocks).length = 8 := by
  induction blocks generalizing h count with
  | nil => exact length_compress hh _ _ _
  | cons block more ih =>
    cases more with
    | nil => exact length_compress hh _ _ _
    | cons next more => exact ih (length_compress hh _ _ _) _

theorem length_hash {size : Nat} (h : size ≤ 64) (message : Bytes) :
    (hash size message).length = size := by
  have hchain : ∀ chain : Chain, chain.length = 8 →
      (chain.flatMap fun w => Bytes.ofNatLittle 8 w.toNat).length = 64 := by
    intro chain hlength
    simp only [List.length_flatMap, Bytes.length_ofNatLittle, List.map_const', hlength]
    rfl
  unfold hash
  rw [List.length_take, hchain _ (length_absorb rfl _ _), Nat.min_eq_left h]

end Blake2b

namespace Argon2

theorem length_longHash (size : Nat) (link : Bytes) : (longHash size link).length = size := by
  induction size using Nat.strongRecOn generalizing link with
  | _ size ih =>
    unfold longHash
    split
    · exact Blake2b.length_hash ‹_› link
    · rw [List.length_append, List.length_take, Blake2b.length_hash (Nat.le_refl 64),
        ih (size - 32) (by omega)]
      omega

/-- A tag has the length that is asked for. -/
theorem length_hash (input : Input) (password : Bytes) :
    (hash input password).length = input.cost.tagBytes :=
  length_longHash _ _

end Argon2

end SessionAuth.Crypto
