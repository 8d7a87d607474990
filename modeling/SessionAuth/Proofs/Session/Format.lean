/-
The format of stored sessions.

Reading undoes writing for the fingerprints in which no two colons stand in a row and that do
not end in one, and for no others: these are the fingerprints before which the cut cannot come
(`parse?_eq_some_iff`).  The token does not matter to this; it may hold colons, in a row or
not.  It matters to what a text tells by itself: with colons in the token, one text may have
been written for several pairs, and without them it was written for one.
-/
import SessionAuth.Proofs.Session.Entry

namespace SessionAuth.Session.Entry

variable {raw fingerprint token : String} {e read asked : Entry}

/-! ### Reading and writing -/

/-- A text is read as the pair that it is written for and whose fingerprint is left whole. -/
theorem parse?_eq_some_iff :
    parse? raw = some e ↔
      e.encode = raw ∧
        e.fingerprint.toList.getLast? ≠ some ':' ∧ ¬ separator <:+: e.fingerprint.toList := by
  unfold parse?
  rw [Option.map_eq_some_iff, ← String.toList_inj, toList_encode]
  constructor
  · rintro ⟨⟨before, after⟩, hcut, rfl⟩
    simpa only [String.toList_ofList] using cutAt?_eq_some_iff.mp hcut
  · intro h
    refine ⟨(e.fingerprint.toList, e.refreshToken.toList), cutAt?_eq_some_iff.mpr h, ?_⟩
    rw [String.ofList_toList, String.ofList_toList]

theorem parse?_eq_none_iff : parse? raw = none ↔ ¬ separator <:+: raw.toList := by
  unfold parse?
  rw [Option.map_eq_none_iff, Text.cutAt?_eq_none_iff]

theorem parse?_encode_eq_self_iff :
    parse? e.encode = some e ↔
      ¬ separator <:+: e.fingerprint.toList ∧ e.fingerprint.toList.getLast? ≠ some ':' := by
  rw [parse?_eq_some_iff]
  exact ⟨fun h => h.2.symm, fun h => ⟨rfl, h.symm⟩⟩

/-! ### Asking for a pair -/

/-- A stored session passes for no pair but its own, if neither token holds a colon. -/
theorem eq_of_isFor (he : ':' ∉ e.refreshToken.toList) (hasked : ':' ∉ asked.refreshToken.toList)
    (hparse : parse? e.encode = some read)
    (hfor : read.isFor asked.fingerprint asked.refreshToken = true) : e = asked := by
  obtain rfl : read = asked := isFor_iff.mp hfor
  exact (encode_inj hasked he (encode_of_parse? hparse)).symm

theorem isFor_iff_bytes :
    e.isFor fingerprint token = true ↔
      Bytes.ofText e.fingerprint = Bytes.ofText fingerprint ∧
        Bytes.ofText e.refreshToken = Bytes.ofText token := by
  unfold isFor matchesToken
  rw [Bool.and_eq_true, Bytes.sameAs_iff, Bytes.sameAs_iff]

theorem matchesToken_iff_bytes :
    e.matchesToken token = true ↔ Bytes.ofText e.refreshToken = Bytes.ofText token :=
  Bytes.sameAs_iff

/-! ### The format -/

/--
**What the format tells.**  A text is read if and only if it holds two colons in a row, and
what is read is what the text is written for.  What is written is read again exactly when the
fingerprint neither holds two colons in a row nor ends in one.  Two pairs whose tokens hold no
colon are written differently, and neither passes for the other.  What is read answers to the
fingerprints and tokens that have its bytes, and to no others.
-/
theorem format_exact (raw fingerprint token : String) :
    (∀ e, parse? raw = some e → e.encode = raw ∧ ¬ separator <:+: e.fingerprint.toList) ∧
    (parse? raw = none ↔ ¬ separator <:+: raw.toList) ∧
    (parse? (encode ⟨fingerprint, token⟩) = some ⟨fingerprint, token⟩ ↔
      ¬ separator <:+: fingerprint.toList ∧ fingerprint.toList.getLast? ≠ some ':') ∧
    (∀ e asked : Entry, ':' ∉ e.refreshToken.toList → ':' ∉ asked.refreshToken.toList →
      (e.encode = asked.encode → e = asked) ∧
      ∀ read, parse? e.encode = some read →
        read.isFor asked.fingerprint asked.refreshToken = true → e = asked) ∧
    ∀ e, parse? raw = some e →
      (e.isFor fingerprint token = true ↔
        Bytes.ofText e.fingerprint = Bytes.ofText fingerprint ∧
          Bytes.ofText e.refreshToken = Bytes.ofText token) ∧
      (e.matchesToken token = true ↔ Bytes.ofText e.refreshToken = Bytes.ofText token) := by
  refine ⟨?_, parse?_eq_none_iff, parse?_encode_eq_self_iff, ?_, ?_⟩
  · intro e hparse
    exact ⟨encode_of_parse? hparse, (parse?_eq_some_iff.mp hparse).2.2⟩
  · intro e asked he hasked
    refine ⟨encode_inj he hasked, ?_⟩
    intro read hparse hfor
    exact eq_of_isFor he hasked hparse hfor
  · intro e _
    exact ⟨isFor_iff_bytes, matchesToken_iff_bytes⟩

/-- With three colons in a row, the third one goes to the token. -/
theorem format_exact_three_colons :
    parse? (encode ⟨"phone:", "t"⟩) = some ⟨"phone", ":t"⟩ ∧
      parse? (encode ⟨"phone:", "t"⟩) ≠ some ⟨"phone:", "t"⟩ := by
  refine ⟨by decide, fun h => ?_⟩
  have hwhole := (format_exact "phone:::t" "phone:" "t").2.2.1.mp h
  exact hwhole.2 (by decide)

end SessionAuth.Session.Entry
