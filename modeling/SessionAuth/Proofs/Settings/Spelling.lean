/-
Settings that are spelled differently.

A variable that is set to blanks only is as good as absent, and most variables are read without the
blanks around them, one of them without regard to letter case.  So what is read of a variable is
not its value but a part of it (`Environment.reading`), and settings are made of nothing else:
environments of which the same is read load to the same settings, or fail with the same fault at
the same variable (`load_restyled`).  Two loads are compared step by step, by a relation between
what each comes to (`SameOutcome`).
-/
import SessionAuth.Proofs.Text.Blank
import SessionAuth.Settings

namespace SessionAuth

/-! ### Faults -/

namespace SettingsFault

/-- The variables that a fault is about. -/
def about : SettingsFault → List String
  | missing name | badNumber name _ _ | badSwitch name _ | notBase64 name => [name]
  | badAlgorithm _ => ["CIPHER_ALGORITHM"]
  | lifetimeNotPositive =>
    ["CIPHER_ACCESS_TOKEN_EXPIRE_SECONDS", "CIPHER_REFRESH_TOKEN_EXPIRE_SECONDS"]
  | noSessions => ["AUTH_MAX_SESSIONS"]
  | badAddress _ => ["SERVER_HOST", "SERVER_PORT"]

/-- The fault without the value that it quotes. -/
def bare : SettingsFault → SettingsFault
  | badNumber name _ cause => badNumber name "" cause
  | badAlgorithm _ => badAlgorithm (.configuration "unsupported algorithm")
  | badAddress _ => badAddress ""
  | fault => fault

theorem about_bare (fault : SettingsFault) : fault.bare.about = fault.about := by
  cases fault <;> rfl

end SettingsFault

/-! ### Spelling -/

namespace Environment

/-- The variables that are read without the blanks around them. -/
def trimmedVariables : List String :=
  ["DB_MAX_CONNECTIONS", "REDIS_PORT", "SERVER_PORT", "CIPHER_ACCESS_TOKEN_EXPIRE_SECONDS",
    "CIPHER_REFRESH_TOKEN_EXPIRE_SECONDS", "AUTH_MAX_SESSIONS", "COOKIE_SECURE",
    "CIPHER_SECRET_KEY", "CIPHER_PUBLIC_KEY", "CIPHER_PASSWORD_PEPPER", "CIPHER_ALGORITHM"]

/-- The variable is absent, or there is nothing but blanks in it. -/
def IsUnset (value : Option String) : Prop :=
  ∀ text, value = some text → ∀ c ∈ text.toList, Text.isBlank c = true

/-- The text with some blanks before and behind it. -/
def IsPadded (core : List Char) (text : String) : Prop :=
  ∃ front back, text.toList = front ++ core ++ back ∧
    (∀ c ∈ front, Text.isBlank c = true) ∧ ∀ c ∈ back, Text.isBlank c = true

/-- Two values of a variable that differ in nothing but how they are spelled. -/
inductive Restyles (name : String) : Option String → Option String → Prop
  | unset {value value' : Option String} (h : IsUnset value) (h' : IsUnset value') :
    Restyles name value value'
  | same (text : String) : Restyles name (some text) (some text)
  | padded {text text' : String} {core : List Char} (hname : name ∈ trimmedVariables)
    (h : IsPadded core text) (h' : IsPadded core text') : Restyles name (some text) (some text')
  | cased {text text' : String} {core core' : List Char} (hname : name = "COOKIE_SECURE")
    (hcore : Text.sameLetters core core' = true) (h : IsPadded core text)
    (h' : IsPadded core' text') : Restyles name (some text) (some text')

/-- Two environments that differ in nothing but how the variables are spelled. -/
def Restyled (env env' : Environment) : Prop := ∀ name, Restyles name (env name) (env' name)

/-- What is read of the value of a variable. -/
def reading (name value : String) : List Char :=
  if name = "COOKIE_SECURE" then (Text.trim Text.isBlank value.toList).map Char.toLower
  else if name ∈ trimmedVariables then Text.trim Text.isBlank value.toList
  else value.toList

/-- The same is read of a variable in two environments. -/
def Agree (env env' : Environment) (name : String) : Prop :=
  (env.get? name).map (reading name) = (env'.get? name).map (reading name)

variable {env env' : Environment} {name : String}

theorem trimBlanks_eq_empty_iff {text : String} :
    Text.trimBlanks text = "" ↔ ∀ c ∈ text.toList, Text.isBlank c = true := by
  rw [← Text.trim_eq_nil_iff]
  exact String.ofList_eq_empty_iff

/-- A variable has no value if and only if it is not set. -/
theorem get?_eq_none_iff : env.get? name = none ↔ IsUnset (env name) := by
  unfold get? IsUnset
  rw [Option.filter_eq_none_iff]
  refine forall_congr' fun text => forall_congr' fun _ => ?_
  rw [bne_iff_ne, not_not, trimBlanks_eq_empty_iff]

theorem get?_of_not_isUnset (h : ¬ IsUnset (env name)) : env.get? name = env name := by
  cases hget : env.get? name with
  | none => exact absurd (get?_eq_none_iff.mp hget) h
  | some text =>
    unfold get? at hget
    exact (Option.eq_some_of_filter_eq_some hget).symm

theorem trim_of_isPadded {core : List Char} {text : String} (h : IsPadded core text) :
    Text.trim Text.isBlank text.toList = Text.trim Text.isBlank core := by
  obtain ⟨front, back, htext, hfront, hback⟩ := h
  rw [htext, Text.trim_padded hfront hback]

/-- However a variable is spelled, the same is read of it, or it is not set at all. -/
theorem Restyles.cases {value value' : Option String} (h : Restyles name value value') :
    IsUnset value ∧ IsUnset value' ∨ ∃ text text', value = some text ∧ value' = some text' ∧
      (IsUnset value ↔ IsUnset value') ∧ reading name text = reading name text' := by
  have hunset : ∀ text : String, IsUnset (some text) ↔
      (Text.trim Text.isBlank text.toList).map Char.toLower = [] := by
    intro text
    rw [List.map_eq_nil_iff, Text.trim_eq_nil_iff]
    exact ⟨fun h => h text rfl, fun h t ht => Option.some.inj ht ▸ h⟩
  cases h with
  | unset h h' => exact .inl ⟨h, h'⟩
  | same text => exact .inr ⟨text, text, rfl, rfl, Iff.rfl, rfl⟩
  | @padded text text' core hname h h' =>
    have htrim : Text.trim Text.isBlank text.toList = Text.trim Text.isBlank text'.toList :=
      (trim_of_isPadded h).trans (trim_of_isPadded h').symm
    refine .inr ⟨text, text', rfl, rfl, ?_, ?_⟩
    · rw [hunset, hunset, htrim]
    · unfold reading
      rw [htrim, if_pos hname, if_pos hname]
  | @cased text text' core core' hname hcore h h' =>
    have hlower : (Text.trim Text.isBlank text.toList).map Char.toLower =
        (Text.trim Text.isBlank text'.toList).map Char.toLower := by
      rw [trim_of_isPadded h, trim_of_isPadded h', ← Text.trim_map Text.isBlank_toLower,
        ← Text.trim_map Text.isBlank_toLower, beq_iff_eq.mp hcore]
    refine .inr ⟨text, text', rfl, rfl, ?_, ?_⟩
    · rw [hunset, hunset, hlower]
    · unfold reading
      rw [if_pos hname, if_pos hname, hlower]

theorem agree_of_restyles (h : Restyles name (env name) (env' name)) : Agree env env' name := by
  unfold Agree
  rcases h.cases with ⟨hunset, hunset'⟩ | ⟨text, text', hvalue, hvalue', hset, hread⟩
  · rw [get?_eq_none_iff.mpr hunset, get?_eq_none_iff.mpr hunset']
  · by_cases hunset : IsUnset (env name)
    · have hunset' : IsUnset (env' name) := hvalue' ▸ hset.mp (hvalue ▸ hunset)
      rw [get?_eq_none_iff.mpr hunset, get?_eq_none_iff.mpr hunset']
    · have hunset' : ¬ IsUnset (env' name) := fun h => hunset (hvalue ▸ hset.mpr (hvalue' ▸ h))
      rw [get?_of_not_isUnset hunset, get?_of_not_isUnset hunset', hvalue, hvalue']
      exact congrArg some hread

/-- A variable of which the same is read is set in both environments or in none. -/
theorem Agree.cases (h : Agree env env' name) : env.get? name = none ∧ env'.get? name = none ∨
    ∃ raw raw', env.get? name = some raw ∧ env'.get? name = some raw' ∧
      reading name raw = reading name raw' := by
  unfold Agree at h
  cases hraw : env.get? name <;> cases hraw' : env'.get? name <;> rw [hraw, hraw'] at h
  · exact .inl ⟨rfl, rfl⟩
  · cases h
  · cases h
  · exact .inr ⟨_, _, rfl, rfl, Option.some.inj h⟩

/-- Most texts are taken as they are. -/
theorem Agree.get?_eq (h : Agree env env' name) (hname : name ∉ trimmedVariables) :
    env.get? name = env'.get? name := by
  have hread : ∀ raw, reading name raw = raw.toList := by
    intro raw
    have hcookie : name ≠ "COOKIE_SECURE" := by
      rintro rfl
      exact hname (by decide)
    unfold reading
    rw [if_neg hcookie, if_neg hname]
  rcases h.cases with ⟨hnone, hnone'⟩ | ⟨raw, raw', hraw, hraw', heq⟩
  · rw [hnone, hnone']
  · rw [hread, hread] at heq
    rw [hraw, hraw', String.toList_inj.mp heq]

end Environment

/-! ### Loading twice -/

/-- Two readings come to values that belong together, or to one fault at one variable. -/
inductive SameOutcome {α β : Type} (R : α → β → Prop) :
    Except SettingsFault α → Except SettingsFault β → Prop
  | loaded {a : α} {b : β} (h : R a b) : SameOutcome R (.ok a) (.ok b)
  | refused {fault fault' : SettingsFault} (h : fault.bare = fault'.bare) :
    SameOutcome R (.error fault) (.error fault')

namespace SameOutcome

variable {α α' β β' : Type} {R : α → α' → Prop} {S : β → β' → Prop}
  {x : Except SettingsFault α} {y : Except SettingsFault α'}

theorem bind {f : α → Except SettingsFault β} {g : α' → Except SettingsFault β'}
    (h : SameOutcome R x y) (hrest : ∀ a b, R a b → SameOutcome S (f a) (g b)) :
    SameOutcome S (x >>= f) (y >>= g) := by
  cases h with
  | loaded h => exact hrest _ _ h
  | refused h => exact .refused h

/-- What does not depend on anything comes to the same. -/
theorem refl (x : Except SettingsFault α) : SameOutcome (· = ·) x x := by
  cases x with
  | ok a => exact .loaded rfl
  | error fault => exact .refused rfl

theorem of_eq {x y : Except SettingsFault α} (h : x = y) : SameOutcome (· = ·) x y :=
  h ▸ refl x

end SameOutcome

namespace Environment

variable {env env' : Environment} {name : String}

theorem number_same (h : Agree env env' name)
    (hread : ∀ raw, reading name raw = Text.trim Text.isBlank raw.toList) (limit default : Nat) :
    SameOutcome (· = ·) (env.number name limit default) (env'.number name limit default) := by
  unfold number
  rcases h.cases with ⟨hnone, hnone'⟩ | ⟨raw, raw', hraw, hraw', heq⟩
  · rw [hnone, hnone']
    exact .refl _
  · rw [hread, hread] at heq
    rw [hraw, hraw']
    dsimp only
    rw [heq]
    cases readNumber limit (Text.trim Text.isBlank raw'.toList) with
    | ok n => exact .loaded rfl
    | error cause => exact .refused rfl

theorem switch_same (h : Agree env env' "COOKIE_SECURE") (default : Bool) :
    SameOutcome (· = ·) (env.switch "COOKIE_SECURE" default)
      (env'.switch "COOKIE_SECURE" default) := by
  refine .of_eq ?_
  unfold switch
  rcases h.cases with ⟨hnone, hnone'⟩ | ⟨raw, raw', hraw, hraw', heq⟩
  · rw [hnone, hnone']
  · have hword : (Text.trim Text.isBlank raw.toList).map Char.toLower =
      (Text.trim Text.isBlank raw'.toList).map Char.toLower := heq
    rw [hraw, hraw']
    dsimp only
    rw [hword]

theorem decodeKey_congr {raw raw' : String}
    (h : Text.trim Text.isBlank raw.toList = Text.trim Text.isBlank raw'.toList) (name : String) :
    decodeKey name raw = decodeKey name raw' := by
  unfold decodeKey fromBase64?
  rw [h]

theorem key?_same (h : Agree env env' name)
    (hread : ∀ raw, reading name raw = Text.trim Text.isBlank raw.toList) :
    SameOutcome (· = ·) (env.key? name) (env'.key? name) := by
  refine .of_eq ?_
  unfold key?
  rcases h.cases with ⟨hnone, hnone'⟩ | ⟨raw, raw', hraw, hraw', heq⟩
  · rw [hnone, hnone']
  · rw [hread, hread] at heq
    rw [hraw, hraw']
    exact congrArg (Except.map some) (decodeKey_congr heq name)

end Environment

namespace Settings

open Environment

variable {env env' : Environment} {development : Bool} {fresh fresh' : BitVec 256}

theorem loadCacheUrl_same (h : ∀ name, Agree env env' name) :
    SameOutcome (· = ·) (loadCacheUrl env) (loadCacheUrl env') := by
  have hurl : env.get? "REDIS_URL" = env'.get? "REDIS_URL" := (h _).get?_eq (by decide)
  have hhost : env.get? "REDIS_HOST" = env'.get? "REDIS_HOST" := (h _).get?_eq (by decide)
  have hpassword : env.get? "REDIS_PASSWORD" = env'.get? "REDIS_PASSWORD" :=
    (h _).get?_eq (by decide)
  unfold loadCacheUrl
  rw [hurl, hhost, hpassword]
  split
  · exact .refl _
  · refine (number_same (h "REDIS_PORT") (fun _ => rfl) limit16 6379).bind ?_
    rintro port _ rfl
    exact .refl _

theorem loadAlgorithm_same (h : Agree env env' "CIPHER_ALGORITHM") :
    SameOutcome (· = ·) (loadAlgorithm env) (loadAlgorithm env') := by
  unfold loadAlgorithm
  rcases h.cases with ⟨hnone, hnone'⟩ | ⟨raw, raw', hraw, hraw', heq⟩
  · rw [hnone, hnone']
    exact .refl _
  · have htrim : Text.trimBlanks raw = Text.trimBlanks raw' := congrArg String.ofList heq
    rw [hraw, hraw']
    unfold Token.Algorithm.parse
    rw [Option.getD_some, Option.getD_some, htrim]
    cases Token.Algorithm.ofName? (Text.trimBlanks raw') with
    | none => exact .refused rfl
    | some algorithm => exact .loaded rfl

/-- Two configurations differ in the key alone, and in nothing at all if the key is not drawn. -/
def SameBut (drawn : Prop) (c c' : Config) : Prop :=
  c' = { c with signingKey := c'.signingKey } ∧ (¬ drawn → c' = c)

/-- The key is drawn at random, and the two environments are given different random bits. -/
def Drawn (env : Environment) (fresh fresh' : BitVec 256) : Prop :=
  env.get? "CIPHER_SECRET_KEY" = none ∧ fresh ≠ fresh'

/-- Two configurations belong together, and the same is logged about them. -/
def SameConfigs (drawn : Prop) (c c' : Config × List Event) : Prop :=
  SameBut drawn c.1 c'.1 ∧ c.2 = c'.2

theorem loadKeys_same (h : ∀ name, Agree env env' name) (algorithm : Token.Algorithm) :
    SameOutcome (SameConfigs (Drawn env fresh fresh'))
      (loadKeys env development fresh algorithm) (loadKeys env' development fresh' algorithm) := by
  unfold loadKeys
  rcases (h "CIPHER_SECRET_KEY").cases with ⟨hnone, hnone'⟩ | ⟨raw, raw', hraw, hraw', heq⟩
  · rw [hnone, hnone']
    cases development with
    | true =>
      refine .loaded ⟨⟨rfl, fun hdrawn => ?_⟩, rfl⟩
      have hfresh : fresh = fresh' := by
        by_contra hne
        exact hdrawn ⟨hnone, hne⟩
      rw [hfresh]
    | false => exact .refused rfl
  · rw [hraw, hraw']
    dsimp only
    have hkey := decodeKey_congr heq "CIPHER_SECRET_KEY"
    rw [hkey]
    refine (SameOutcome.refl (decodeKey "CIPHER_SECRET_KEY" raw')).bind ?_
    rintro signing _ rfl
    refine (key?_same (h "CIPHER_PUBLIC_KEY") fun _ => rfl).bind ?_
    rintro verification _ rfl
    exact .loaded ⟨⟨rfl, fun _ => rfl⟩, rfl⟩

theorem loadConfig_same (h : ∀ name, Agree env env' name) :
    SameOutcome (SameConfigs (Drawn env fresh fresh'))
      (loadConfig env development fresh) (loadConfig env' development fresh') := by
  unfold loadConfig
  refine (loadAlgorithm_same (h _)).bind ?_
  rintro algorithm _ rfl
  refine (number_same (h "CIPHER_ACCESS_TOKEN_EXPIRE_SECONDS") (fun _ => rfl) _ _).bind ?_
  rintro access _ rfl
  refine (number_same (h "CIPHER_REFRESH_TOKEN_EXPIRE_SECONDS") (fun _ => rfl) _ _).bind ?_
  rintro refresh _ rfl
  split
  · exact .refused rfl
  · refine (number_same (h "AUTH_MAX_SESSIONS") (fun _ => rfl) _ _).bind ?_
    rintro maxSessions _ rfl
    split
    · exact .refused rfl
    · refine (loadKeys_same h algorithm).bind ?_
      rintro ⟨keys, events⟩ ⟨keys', events'⟩ ⟨⟨hkeys, hsame⟩, hevents⟩
      refine (switch_same (h _) true).bind ?_
      rintro secure _ rfl
      refine (key?_same (h "CIPHER_PASSWORD_PEPPER") fun _ => rfl).bind ?_
      rintro pepper _ rfl
      refine .loaded ⟨⟨?_, fun hdrawn => ?_⟩, hevents⟩
      · dsimp only at hkeys ⊢
        rw [hkeys]
      · dsimp only at hsame ⊢
        rw [hsame hdrawn]

/-- Two settings belong together, and the same is logged about them. -/
def SameSettings (drawn : Prop) (s s' : Settings × List Event) : Prop :=
  (∃ config, s'.1 = { s.1 with config := config } ∧ SameBut drawn s.1.config config) ∧ s.2 = s'.2

theorem load_same (h : ∀ name, Agree env env' name) :
    SameOutcome (SameSettings (Drawn env fresh fresh'))
      (load env development fresh) (load env' development fresh') := by
  have hurl : env.get? "DATABASE_URL" = env'.get? "DATABASE_URL" := (h _).get?_eq (by decide)
  have hhost : env.get? "SERVER_HOST" = env'.get? "SERVER_HOST" := (h _).get?_eq (by decide)
  unfold load
  rw [hurl, hhost]
  cases env'.get? "DATABASE_URL" with
  | none => exact .refused rfl
  | some url =>
    refine (number_same (h "DB_MAX_CONNECTIONS") (fun _ => rfl) _ _).bind ?_
    rintro connections _ rfl
    refine (loadCacheUrl_same h).bind ?_
    rintro cacheUrl _ rfl
    refine (loadConfig_same h).bind ?_
    rintro ⟨config, events⟩ ⟨config', events'⟩ ⟨hconfig, hevents⟩
    refine (number_same (h "SERVER_PORT") (fun _ => rfl) _ _).bind ?_
    rintro port _ rfl
    exact .loaded ⟨⟨config', rfl, hconfig⟩, hevents⟩

/--
**Settings do not depend on how the variables are spelled.**  Of two environments that differ in
blank variables that are absent, in the blanks around numbers, switches, keys and the name of the
algorithm, and in the letter case of the switch, either none loads, both with the same fault at the
same variable, or both load to the same settings.  If there is no key to sign with, and one is drawn
at random each time, the settings may differ in that key.
-/
theorem load_restyled (h : env.Restyled env') (development : Bool) (fresh fresh' : BitVec 256) :
    (∃ fault fault', load env development fresh = .error fault ∧
      load env' development fresh' = .error fault' ∧
      fault.about = fault'.about ∧ fault.bare = fault'.bare) ∨
    ∃ settings settings' events, load env development fresh = .ok (settings, events) ∧
      load env' development fresh' = .ok (settings', events) ∧
      settings' = { settings with
        config := { settings.config with signingKey := settings'.config.signingKey } } ∧
      (fresh = fresh' ∨ env.get? "CIPHER_SECRET_KEY" ≠ none → settings' = settings) := by
  have hsame : SameOutcome (SameSettings (Drawn env fresh fresh'))
      (load env development fresh) (load env' development fresh') :=
    load_same fun name => agree_of_restyles (h name)
  generalize load env development fresh = x at hsame ⊢
  generalize load env' development fresh' = y at hsame ⊢
  cases hsame with
  | @refused fault fault' hbare =>
    refine .inl ⟨fault, fault', rfl, rfl, ?_, hbare⟩
    rw [← fault.about_bare, hbare, fault'.about_bare]
  | @loaded s s' hsettings =>
    obtain ⟨settings, events⟩ := s
    obtain ⟨settings', events'⟩ := s'
    obtain ⟨⟨config, hsettings, hkey, hsame⟩, hevents⟩ := hsettings
    dsimp only at hsettings hkey hsame hevents
    subst hsettings hevents
    refine .inr ⟨settings, _, events, rfl, rfl, ?_, fun hdrawn => ?_⟩
    · dsimp only
      rw [← hkey]
    · have hnot : ¬ Drawn env fresh fresh' := fun hdrawn' =>
        hdrawn.elim hdrawn'.2 fun hset => hset hdrawn'.1
      rw [hsame hnot]

namespace Spelled

/-- Some variables with two spellings each. -/
def values : List (String × Option String × Option String) :=
  [("DATABASE_URL", some "postgres://localhost", some "postgres://localhost"),
    ("REDIS_URL", some " \t", none),
    ("REDIS_PORT", some "\u00a06380\n", some "6380"),
    ("CIPHER_SECRET_KEY", some "c2VjcmV0\n", some " c2VjcmV0"),
    ("COOKIE_SECURE", some " FALSE", some "False\u2003")]

/-- The variables in the first spelling. -/
def first : Environment := fun name => (values.lookup name).bind Prod.fst

/-- The variables in the second spelling. -/
def second : Environment := fun name => (values.lookup name).bind Prod.snd

/-- What the variables stand for, in both spellings. -/
def loaded : Settings where
  databaseUrl := "postgres://localhost"
  databaseConnections := 10
  cacheUrl := "redis://127.0.0.1:6380"
  host := "127.0.0.1"
  port := 8080
  config := { signingKey := Bytes.ofText "secret", cookieSecure := false }

theorem restyled : first.Restyled second := by
  have hblank : IsUnset (some " \t") := fun text htext =>
    Option.some.inj htext ▸ List.all_eq_true.mp (by decide)
  have hpadded : ∀ {core : List Char} {text : String} (front back : List Char),
      text.toList = front ++ core ++ back → front.all Text.isBlank = true →
        back.all Text.isBlank = true → IsPadded core text :=
    fun front back htext hfront hback =>
      ⟨front, back, htext, List.all_eq_true.mp hfront, List.all_eq_true.mp hback⟩
  have hport : IsPadded "6380".toList "\u00a06380\n" :=
    hpadded ['\u00a0'] ['\n'] (by decide) rfl rfl
  have hport' : IsPadded "6380".toList "6380" := hpadded [] [] (by decide) rfl rfl
  have hkey : IsPadded "c2VjcmV0".toList "c2VjcmV0\n" := hpadded [] ['\n'] (by decide) rfl rfl
  have hkey' : IsPadded "c2VjcmV0".toList " c2VjcmV0" := hpadded [' '] [] (by decide) rfl rfl
  have hswitch : IsPadded "FALSE".toList " FALSE" := hpadded [' '] [] (by decide) rfl rfl
  have hswitch' : IsPadded "False".toList "False\u2003" :=
    hpadded [] ['\u2003'] (by decide) rfl rfl
  have hall : ∀ p ∈ values, Restyles p.1 p.2.1 p.2.2 := by
    simp only [values, List.forall_mem_cons]
    exact ⟨.same _, .unset hblank (fun _ h => nomatch h), .padded (by decide) hport hport',
      .padded (by decide) hkey hkey', .cased rfl (by decide) hswitch hswitch',
      List.forall_mem_nil _⟩
  intro name
  unfold first second
  cases hvalue : values.lookup name with
  | none => exact .unset (fun _ h => nomatch h) (fun _ h => nomatch h)
  | some spellings =>
    obtain ⟨front, back, hvalues, _⟩ := List.lookup_eq_some_iff.mp hvalue
    exact hall (name, spellings) (hvalues ▸ List.mem_append_right _ List.mem_cons_self)

end Spelled

open Spelled in
/-- Blanks and capitals make no difference to these settings. -/
theorem load_restyled_spelled : first.Restyled second ∧
    load first false 0 = .ok (loaded, []) ∧ load second false 1 = .ok (loaded, []) := by
  have hfirst : load first false 0 = .ok (loaded, []) := rfl
  have hset : first.get? "CIPHER_SECRET_KEY" ≠ none := by decide
  refine ⟨restyled, hfirst, ?_⟩
  rcases load_restyled restyled false 0 1 with ⟨fault, _, hfault, _⟩ |
    ⟨settings, settings', events, hloaded, hloaded', _, hsame⟩
  · cases hfault.symm.trans hfirst
  · cases hloaded.symm.trans hfirst
    rw [hloaded', hsame (.inr hset)]

end Settings

end SessionAuth
