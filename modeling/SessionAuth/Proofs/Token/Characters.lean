/-
The characters of tokens.

A token that was made is written in visible ASCII without blanks.  So it can stand in a header
as it is, in a cookie as well as behind the scheme of an authorization, and nothing of it is
lost when blanks are taken off.
-/
import SessionAuth.Proofs.Bytes.Text
import SessionAuth.Proofs.Token.Codec
import SessionAuth.Text.Blank

namespace SessionAuth

/-- A visible character of ASCII. -/
def IsVisible (c : Char) : Prop := 33 ≤ c.toNat ∧ c.toNat ≤ 126

instance (c : Char) : Decidable (IsVisible c) := inferInstanceAs (Decidable (_ ∧ _))

theorem isVisible_of_isUrlSafe {c : Char} (h : IsUrlSafe c) : IsVisible c := by
  rcases h with h | rfl | rfl
  · have hranges : (65 ≤ c.toNat ∧ c.toNat ≤ 90 ∨ 97 ≤ c.toNat ∧ c.toNat ≤ 122) ∨
        48 ≤ c.toNat ∧ c.toNat ≤ 57 := by
      have hval : (decide (65 ≤ c.val ∧ c.val ≤ 90) || (97 ≤ c.val && c.val ≤ 122) ||
          (48 ≤ c.val && c.val ≤ 57)) = true := h
      simpa [UInt32.le_iff_toNat_le] using hval
    unfold IsVisible
    omega
  · decide
  · decide

/-- A text is written in visible characters. -/
def AllVisible (text : String) : Prop := ∀ c ∈ text.toList, IsVisible c

/-- **A token that was made is written in visible characters**, and it is not empty. -/
theorem Token.Codec.allVisible_of_mint {c : Codec} {now expiry : Instant} {id : UserId}
    {noise : Noise} {subject token : String} {kind : Option Kind} {o : Overrides}
    (h : c.mint now id noise subject kind o = .ok (expiry, token)) :
    AllVisible token ∧ token ≠ "" := by
  constructor
  · intro a ha
    rcases isUrlSafe_or_dot_of_mint h a ha with hsafe | rfl
    · exact isVisible_of_isUrlSafe hsafe
    · decide
  · obtain ⟨_, _, signature, rfl⟩ := mint_eq_ok h
    intro hempty
    have hchars := congrArg String.toList hempty
    rw [Compact.toList_attach] at hchars
    simp at hchars

/-! ### Visible texts in headers -/

/-- And bytes that are characters of ASCII are read as these. -/
theorem Bytes.chars_ofText {text : String} (h : ∀ c ∈ text.toList, c.toNat < 128) :
    (ofText text).map (fun b => Char.ofNat b.toNat) = text.toList := by
  have hback : ∀ c ∈ text.toList, Char.ofNat (UInt8.ofNat c.toNat).toNat = c := by
    intro c hc
    rw [UInt8.toNat_ofNat', Nat.mod_eq_of_lt (by have := h c hc; omega)]
    exact Char.ofNat_toNat c
  rw [ofText_of_ascii h, List.map_map]
  exact (List.map_congr_left hback).trans (List.map_id _)

theorem not_isBlank_of_isVisible {c : Char} (h : IsVisible c) : Text.isBlank c ≠ true := by
  intro hblank
  unfold IsVisible at h
  unfold Text.isBlank at hblank
  simp only [Bool.or_eq_true, Bool.and_eq_true, decide_eq_true_eq, beq_iff_eq] at hblank
  omega

/-- Taking blanks off takes nothing off a text that begins and ends with visible characters. -/
theorem trim_of_ends {text : List Char} (hfirst : ∀ c, text.head? = some c → IsVisible c)
    (hlast : ∀ c, text.getLast? = some c → IsVisible c) :
    Text.trim Text.isBlank text = text := by
  have hkept : ∀ l : List Char, (∀ c, l.head? = some c → IsVisible c) →
      l.dropWhile Text.isBlank = l := by
    intro l hl
    cases l with
    | nil => rfl
    | cons c cs => exact List.dropWhile_cons_of_neg (not_isBlank_of_isVisible (hl c rfl))
  unfold Text.trim
  rw [hkept text hfirst, hkept text.reverse (by rwa [List.head?_reverse]), List.reverse_reverse]

theorem trim_of_visible {text : List Char} (h : ∀ c ∈ text, IsVisible c) :
    Text.trim Text.isBlank text = text :=
  trim_of_ends (fun c hc => h c (List.mem_of_head? hc)) fun c hc => h c (List.mem_of_getLast? hc)

end SessionAuth
