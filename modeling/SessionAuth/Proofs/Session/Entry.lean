/-
Reading stored sessions.

A stored text is a fingerprint, two colons and a token, and it is read by cutting it at
the first two colons.  A fingerprint holds no two colons in a row, but it may end in one;
then three colons stand in a row, the cut comes one character early, and what is read is
not what was written.  So there are two cases in everything that is said here
(`parse?_encode`).  A token that was made holds no colon, and therefore the text still
tells which fingerprint and which token it was made of (`encode_inj`).
-/
import SessionAuth.Proofs.Bytes.Text
import SessionAuth.Proofs.Text.Cut
import SessionAuth.Session.Registry

namespace SessionAuth

namespace Session

/-- The last character of the fingerprint is a colon. -/
def Fingerprint.endsInColon (f : Fingerprint) : Bool := f.text.toList.getLast? == some ':'

namespace Entry

/-! ### Cutting at the separator -/

/-- One colon more makes two in a row only behind another one. -/
theorem separator_infix_concat {text : List Char} :
    separator <:+: text ++ [':'] ↔ text.getLast? = some ':' ∨ separator <:+: text := by
  rw [List.infix_concat_iff, ← List.singleton_suffix_iff_getLast?_eq_some]
  refine or_congr_left ?_
  show [':'] ++ [':'] <:+ text ++ [':'] ↔ [':'] <:+ text
  exact List.suffix_append_self_iff

/-- The cut comes at two colons that do not stand behind others, nor behind a third colon. -/
theorem cutAt?_eq_some_iff {text before after : List Char} :
    Text.cutAt? separator text = some (before, after) ↔
      before ++ ':' :: ':' :: after = text ∧
        before.getLast? ≠ some ':' ∧ ¬ separator <:+: before := by
  have hmark : separator ≠ [] := List.cons_ne_nil _ _
  rw [Text.cutAt?_eq_some_iff hmark, List.append_assoc]
  show _ ∧ ¬ separator <:+: before ++ [':'] ↔ _
  rw [separator_infix_concat, not_or]
  rfl

/-- The first two colons are the ones that were put in, or one before them. -/
theorem cutAt?_separator {text rest : List Char} (h : Text.cutAt? separator text = none) :
    Text.cutAt? separator (text ++ ':' :: ':' :: rest) =
      if text.getLast? = some ':' then some (text.dropLast, ':' :: rest)
      else some (text, rest) := by
  have hfree : ¬ separator <:+: text := Text.cutAt?_eq_none_iff.mp h
  split
  · rename_i hlast
    obtain ⟨front, rfl⟩ := List.getLast?_eq_some_iff.mp hlast
    rw [separator_infix_concat, not_or] at hfree
    rw [cutAt?_eq_some_iff, List.dropLast_concat]
    exact ⟨by simp, hfree⟩
  · rename_i hlast
    exact cutAt?_eq_some_iff.mpr ⟨rfl, hlast, hfree⟩

/-! ### Reading what was written -/

theorem toList_encode (e : Entry) :
    e.encode.toList = e.fingerprint.toList ++ ':' :: ':' :: e.refreshToken.toList := by
  simp [encode, separator]

/-- What is read is what was written, unless the fingerprint ends in a colon. -/
theorem parse?_encode (f : Fingerprint) (token : String) :
    parse? (encode ⟨f.text, token⟩) =
      if f.endsInColon then some ⟨String.ofList f.text.toList.dropLast, ":" ++ token⟩
      else some ⟨f.text, token⟩ := by
  unfold parse?
  rw [toList_encode]
  simp only
  rw [cutAt?_separator f.accepted]
  unfold Fingerprint.endsInColon
  by_cases hlast : f.text.toList.getLast? = some ':'
  · rw [if_pos hlast, if_pos (beq_iff_eq.mpr hlast)]
    simp only [Option.map_some, Option.some.injEq, Entry.mk.injEq, true_and]
    rw [← String.toList_inj]
    simp
  · rw [if_neg hlast, if_neg (fun h => hlast (beq_iff_eq.mp h))]
    simp

/-- A text that can be read is the one that was written for what is read. -/
theorem encode_of_parse? {raw : String} {e : Entry} (h : parse? raw = some e) : e.encode = raw := by
  obtain ⟨sides, hcut, rfl⟩ := Option.map_eq_some_iff.mp h
  rw [← String.toList_inj, toList_encode]
  simpa [separator] using Text.append_of_cutAt? hcut

/-- A token without a colon, and the fingerprint before it, can be told from the text. -/
theorem encode_inj {e e' : Entry} (h : ':' ∉ e.refreshToken.toList)
    (h' : ':' ∉ e'.refreshToken.toList) (heq : e.encode = e'.encode) : e = e' := by
  have hchars := congrArg String.toList heq
  rw [toList_encode, toList_encode] at hchars
  have hleft : ∀ (a b : List Char), a ++ ':' :: ':' :: b = (a ++ [':']) ++ ':' :: b := by simp
  rw [hleft, hleft] at hchars
  obtain ⟨hfingerprint, htoken⟩ := Text.append_cons_inj h h' hchars
  rw [List.append_cancel_right_eq] at hfingerprint
  cases e
  cases e'
  simp only [String.toList_inj] at hfingerprint htoken
  rw [Entry.mk.injEq]
  exact ⟨hfingerprint, htoken⟩

/-! ### Comparing -/

theorem matchesToken_iff {e : Entry} {token : String} :
    e.matchesToken token = true ↔ e.refreshToken = token := by
  unfold matchesToken
  rw [Bytes.sameAs_iff]
  exact Bytes.ofText_injective.eq_iff

theorem isFor_iff {e : Entry} {fingerprint token : String} :
    e.isFor fingerprint token = true ↔ e = ⟨fingerprint, token⟩ := by
  unfold isFor
  rw [Bool.and_eq_true, Bytes.sameAs_iff, matchesToken_iff]
  cases e
  rw [Entry.mk.injEq]
  exact and_congr_left fun _ => Bytes.ofText_injective.eq_iff

/-- A token without a colon is what is read, without a colon in front. -/
theorem token_of_parse? {f : Fingerprint} {token : String} {e : Entry} (h : ':' ∉ token.toList)
    (hparse : parse? (encode ⟨f.text, token⟩) = some e) :
    token = String.ofList (e.refreshToken.toList.dropWhile (· == ':')) := by
  have hbare : token.toList.dropWhile (· == ':') = token.toList := by
    cases hchars : token.toList with
    | nil => rfl
    | cons c rest =>
      have hc : c ≠ ':' := fun heq => h (by rw [hchars, heq]; exact List.mem_cons_self)
      rw [List.dropWhile_cons_of_neg (by simpa using hc)]
  rw [parse?_encode] at hparse
  split at hparse
  · cases hparse
    show token = String.ofList ((":" ++ token).toList.dropWhile _)
    rw [String.toList_append]
    show token = String.ofList (token.toList.dropWhile _)
    rw [hbare, String.ofList_toList]
  · cases hparse
    rw [hbare, String.ofList_toList]

end Entry

end Session

end SessionAuth
