/-
Looking for a session in a list.

A search gives a stored text of the list, and what is read from this text is what was
sought.  Users have lists of their own.
-/
import SessionAuth.Proofs.Session.Entry
import SessionAuth.Proofs.UserId
import Mathlib.Data.List.Nodup

namespace SessionAuth.Session.Registry

variable {entries : List String} {fingerprint token raw : String}

/-- No two users share a list. -/
theorem key_inj {a b : UserId} (h : key a = key b) : a = b := by
  have hchars := congrArg String.toList h
  simp only [key, String.toList_append, List.append_cancel_left_eq, String.toList_inj] at hchars
  exact UserId.toHex_inj hchars

theorem parse?_of_find? (h : find? fingerprint token entries = some raw) :
    raw ∈ entries ∧ Entry.parse? raw = some ⟨fingerprint, token⟩ := by
  refine ⟨List.mem_of_find?_eq_some h, ?_⟩
  have hfound := List.find?_some h
  obtain ⟨e, hparse, hfor⟩ := (Option.any_eq_true _ _).mp hfound
  rw [hparse, Entry.isFor_iff.mp hfor]

theorem parse?_of_findToken? (h : findToken? token entries = some raw) :
    raw ∈ entries ∧ ∃ e, Entry.parse? raw = some e ∧ e.refreshToken = token := by
  refine ⟨List.mem_of_find?_eq_some h, ?_⟩
  have hfound := List.find?_some h
  obtain ⟨e, hparse, hmatches⟩ := (Option.any_eq_true _ _).mp hfound
  exact ⟨e, hparse, Entry.matchesToken_iff.mp hmatches⟩

/-- What was found is the only text that would have been found. -/
theorem find?_filter (h : find? fingerprint token entries = some raw) :
    find? fingerprint token (entries.filter (· != raw)) = none := by
  cases hfind : find? fingerprint token (entries.filter (· != raw)) with
  | none => rfl
  | some other =>
    exfalso
    obtain ⟨hmem, hparse⟩ := parse?_of_find? hfind
    have hsame : other = raw := by
      rw [← Entry.encode_of_parse? hparse, ← Entry.encode_of_parse? (parse?_of_find? h).2]
    simp [hsame] at hmem

/-! ### Lists of sessions -/

/-- The text under which a fingerprint and a token are stored. -/
def stored (session : Fingerprint × String) : String := Entry.encode ⟨session.1.text, session.2⟩

theorem stored_inj {a b : Fingerprint × String} (ha : ':' ∉ a.2.toList) (hb : ':' ∉ b.2.toList)
    (h : stored a = stored b) : a = b := by
  obtain ⟨⟨text, accepted⟩, t⟩ := a
  obtain ⟨⟨text', accepted'⟩, t'⟩ := b
  have hentry := Entry.encode_inj ha hb h
  simp only [Entry.mk.injEq] at hentry
  obtain ⟨rfl, rfl⟩ := hentry
  rfl

/-- A token that does not begin with a colon is read from the text of its session only. -/
theorem parse?_stored {session : Fingerprint × String} {e : Entry}
    (htoken : e.refreshToken.toList.head? ≠ some ':') :
    Entry.parse? (stored session) = some e ↔
      session.1.endsInColon = false ∧ e = ⟨session.1.text, session.2⟩ := by
  unfold stored
  rw [Entry.parse?_encode]
  cases session.1.endsInColon with
  | true =>
    simp only [if_true, Option.some.injEq, Bool.true_eq_false, false_and, iff_false]
    rintro rfl
    exact htoken (by simp)
  | false => simp [eq_comm]

section Search

variable {sessions : List (Fingerprint × String)} {session : Fingerprint × String} {f : Fingerprint}

theorem stored_of_find? (htoken : token.toList.head? ≠ some ':')
    (h : find? f.text token (sessions.map stored) = some raw) :
    (f, token) ∈ sessions ∧ f.endsInColon = false ∧ raw = stored (f, token) := by
  obtain ⟨hmem, hparse⟩ := parse?_of_find? h
  obtain ⟨session, hsession, rfl⟩ := List.mem_map.mp hmem
  obtain ⟨hcolon, heq⟩ := (parse?_stored htoken).mp hparse
  obtain ⟨⟨text, accepted⟩, t⟩ := session
  obtain ⟨text', accepted'⟩ := f
  simp only [Entry.mk.injEq] at heq
  obtain ⟨rfl, rfl⟩ := heq
  exact ⟨hsession, hcolon, rfl⟩

theorem stored_of_findToken? (htoken : token.toList.head? ≠ some ':')
    (h : findToken? token (sessions.map stored) = some raw) :
    ∃ session ∈ sessions, session.1.endsInColon = false ∧ session.2 = token ∧
      raw = stored session := by
  obtain ⟨hmem, e, hparse, rfl⟩ := parse?_of_findToken? h
  obtain ⟨session, hsession, rfl⟩ := List.mem_map.mp hmem
  obtain ⟨hcolon, rfl⟩ := (parse?_stored htoken).mp hparse
  exact ⟨session, hsession, hcolon, rfl, rfl⟩

/-- A session that is there and can be read is found by its fingerprint and its token. -/
theorem find?_stored (htoken : token.toList.head? ≠ some ':') (hmem : (f, token) ∈ sessions)
    (hcolon : f.endsInColon = false) :
    find? f.text token (sessions.map stored) = some (stored (f, token)) := by
  have hparse : Entry.parse? (stored (f, token)) = some ⟨f.text, token⟩ :=
    (parse?_stored htoken).mpr ⟨hcolon, rfl⟩
  cases hfind : find? f.text token (sessions.map stored) with
  | some raw => rw [(stored_of_find? htoken hfind).2.2]
  | none =>
    exfalso
    have hnone := List.find?_eq_none.mp hfind _ (List.mem_map_of_mem hmem)
    rw [hparse] at hnone
    exact hnone (Entry.isFor_iff.mpr rfl)

/-- A session that is there and can be read is found by its token, if this has no other session. -/
theorem findToken?_stored (htoken : token.toList.head? ≠ some ':') (hmem : (f, token) ∈ sessions)
    (hcolon : f.endsInColon = false) (hnodup : (sessions.map Prod.snd).Nodup) :
    findToken? token (sessions.map stored) = some (stored (f, token)) := by
  have hparse : Entry.parse? (stored (f, token)) = some ⟨f.text, token⟩ :=
    (parse?_stored htoken).mpr ⟨hcolon, rfl⟩
  cases hfind : findToken? token (sessions.map stored) with
  | some raw =>
    obtain ⟨other, hother, _, hsame, rfl⟩ := stored_of_findToken? htoken hfind
    rw [List.inj_on_of_nodup_map hnodup hother hmem hsame]
  | none =>
    exfalso
    have hnone := List.find?_eq_none.mp hfind _ (List.mem_map_of_mem hmem)
    rw [hparse] at hnone
    exact hnone (Entry.matchesToken_iff.mpr rfl)

/-- Taking out the text of a session takes out this session and no other. -/
theorem filter_stored (hmem : session ∈ sessions)
    (hcolon : ∀ other ∈ sessions, ':' ∉ other.2.toList) (hnodup : (sessions.map Prod.snd).Nodup) :
    (sessions.map stored).filter (· != stored session) = (sessions.erase session).map stored := by
  rw [List.filter_map, (List.Nodup.of_map _ hnodup).erase_eq_filter]
  refine congrArg _ (List.filter_congr fun other hother => ?_)
  show (stored other != stored session) = (other != session)
  by_cases heq : other = session
  · rw [heq, bne_self_eq_false, bne_self_eq_false]
  · have hne : stored other ≠ stored session := fun h =>
      heq (stored_inj (hcolon other hother) (hcolon session hmem) h)
    rw [bne_iff_ne.mpr heq, bne_iff_ne.mpr hne]

end Search

end SessionAuth.Session.Registry
