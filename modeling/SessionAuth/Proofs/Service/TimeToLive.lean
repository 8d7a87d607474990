/-
Times to live in words of 64 bits.

A list of sessions lives as long as its newest token, and how many seconds that is goes through
many hands: the lifetime in the configuration, the second at which the token was made, the
second at which it expires, the time that is left when the clock is read again, the number that
is sent to a list server or added to another clock.  All of these are words of 64 bits
(`Instant.expiryInWords`, `Instant.secondsUntilInWords`), and a step whose result does not fit
has none.

Every bound rests on the check before it.  A token that was made has a calendar date on which it
expires, and a reading of the clock has one too.  Between two calendar dates there are so few
seconds that none of the later steps comes near its limit, whichever date is the earlier one.
The service computes the seconds in this way and in no other (`Service.PushesFit`).
-/
import SessionAuth.Proofs.Cache.Remote
import SessionAuth.Proofs.Service.Minting
import SessionAuth.Proofs.Service.Operation
import SessionAuth.Proofs.Session.Usable

namespace SessionAuth

open Cache (ListServer longestTtl after)
open Token (Codec)

/-! ### Words -/

/-- The number as a signed word, if it fits. -/
def signed? (n : Int) : Option Int :=
  if -(limit63 : Int) ≤ n ∧ n < limit63 then some n else none

/-- The number as an unsigned word, if it fits. -/
def unsigned? (n : Int) : Option Nat :=
  if 0 ≤ n ∧ n < limit64 then some n.toNat else none

theorem signed?_of_bounds {n : Int} (hlow : -(limit63 : Int) ≤ n) (hhigh : n < limit63) :
    signed? n = some n :=
  if_pos ⟨hlow, hhigh⟩

theorem unsigned?_natCast {n : Nat} (h : n < limit64) : unsigned? n = some n :=
  if_pos ⟨Int.natCast_nonneg n, Int.ofNat_lt.mpr h⟩

/-- Where a number is divided towards zero and then kept from being negative, only its part
above zero is divided. -/
theorem max_tdiv_zero (n : Int) (m : Nat) : max (n.tdiv m) 0 = ((n.toNat / m : Nat) : Int) := by
  rcases Int.le_total 0 n with hn | hn
  · obtain ⟨k, rfl⟩ := Int.eq_ofNat_of_zero_le hn
    rw [Int.toNat_natCast, Int.ofNat_tdiv]
    exact Int.max_eq_left (Int.tdiv_nonneg hn (Int.natCast_nonneg m))
  · have hneg : 0 ≤ (-n).tdiv m :=
      Int.tdiv_nonneg (Int.neg_nonneg_of_nonpos hn) (Int.natCast_nonneg m)
    rw [Int.neg_tdiv] at hneg
    rw [Int.toNat_of_nonpos hn, Nat.zero_div]
    exact Int.max_eq_right (Int.nonpos_of_neg_nonneg hneg)

namespace Instant

/-- The instant falls on a calendar date. -/
def IsDated (t : Instant) : Prop := firstSecond ≤ t.seconds ∧ t.seconds ≤ lastSecond

instance : DecidablePred IsDated := fun _ => inferInstanceAs (Decidable (_ ∧ _))

/--
When a token expires that is made at an instant: the seconds of its lifetime, those of the
instant and their sum are signed words.
-/
def expiryInWords (lifetime : Lifetime) (minted : Instant) : Option Instant := do
  let lasting ← signed? lifetime.seconds
  let issued ← signed? minted.seconds
  let expires ← signed? (issued + lasting)
  ofSeconds? expires

/-- The nanoseconds from one instant to another one, if a lifetime can be as long. -/
def span? (now later : Instant) : Option Int :=
  if (later.nanos - now.nanos).natAbs ≤ Lifetime.longest.nanos then some (later.nanos - now.nanos)
  else none

/--
The seconds until an instant: whole milliseconds as a signed word, then without a sign, then
divided and rounded up.
-/
def secondsUntilInWords (now later : Instant) : Option Nat := do
  let span ← now.span? later
  let millis ← signed? (span.tdiv nanosPerMilli)
  let left ← unsigned? (max millis 0)
  let whole ← unsigned? ↑(left / 1000)
  let rounded ← unsigned? ↑(if left % 1000 = 0 then whole else whole + 1)
  unsigned? ↑(max rounded 1)

variable {now later t : Instant}

/-! ### Between two calendar dates -/

/-- Two dates are less than 16544868105601 seconds apart. -/
theorem IsDated.nanos_sub_lt (hnow : now.IsDated) (hlater : later.IsDated) :
    later.nanos - now.nanos < 16544868105601 * 1000000000 := by
  unfold IsDated seconds firstSecond lastSecond nanosPerSecond at *
  omega

/-- From date to date the seconds that are left are few. -/
theorem IsDated.secondsUntil_lt (hnow : now.IsDated) (hlater : later.IsDated) :
    now.secondsUntil later < longestTtl := by
  have hspan := hnow.nanos_sub_lt hlater
  have hlongest : longestTtl = 9223372036854775 := by decide
  rw [hlongest]
  unfold secondsUntil millisUntil nanosPerMilli
  omega

theorem IsDated.millisUntil_lt (hnow : now.IsDated) (hlater : later.IsDated) :
    now.millisUntil later < 16544868105601000 := by
  have hspan := hnow.nanos_sub_lt hlater
  unfold millisUntil nanosPerMilli
  omega

/-- From date to date there is a span of time, whose milliseconds are a word. -/
theorem IsDated.span?_eq (hnow : now.IsDated) (hlater : later.IsDated) :
    now.span? later = some (later.nanos - now.nanos) ∧
      signed? ((later.nanos - now.nanos).tdiv nanosPerMilli) =
        some ((later.nanos - now.nanos).tdiv nanosPerMilli) := by
  have hahead := hnow.nanos_sub_lt hlater
  have hback := hlater.nanos_sub_lt hnow
  have hlongest : Lifetime.longest.nanos = 9223372036854775807000000 := by decide
  have hlimit : limit63 = 9223372036854775808 := rfl
  constructor
  · exact if_pos (by omega)
  · have hsize : ((later.nanos - now.nanos).tdiv nanosPerMilli).natAbs =
        (later.nanos - now.nanos).natAbs / 1000000 := Int.natAbs_tdiv _ _
    refine signed?_of_bounds ?_ ?_ <;> omega

/-- **From date to date the seconds can be counted in words**, in either direction. -/
theorem IsDated.secondsUntilInWords_eq (hnow : now.IsDated) (hlater : later.IsDated) :
    now.secondsUntilInWords later = some (now.secondsUntil later) := by
  obtain ⟨hspan, hmillis⟩ := hnow.span?_eq hlater
  have hfew := hnow.millisUntil_lt hlater
  have hlimit : limit64 = 18446744073709551616 := rfl
  have hleft : unsigned? (max ((later.nanos - now.nanos).tdiv nanosPerMilli) 0) =
      some (now.millisUntil later) := by
    rw [max_tdiv_zero]
    have hword : now.millisUntil later < limit64 := by omega
    exact unsigned?_natCast hword
  have hwhole : unsigned? ↑(now.millisUntil later / 1000) = some (now.millisUntil later / 1000) :=
    unsigned?_natCast (by omega)
  have hrounded : unsigned? ↑(if now.millisUntil later % 1000 = 0 then now.millisUntil later / 1000
      else now.millisUntil later / 1000 + 1) = some ((now.millisUntil later + 999) / 1000) := by
    rw [unsigned?_natCast (by split <;> omega)]
    refine congrArg some ?_
    split <;> omega
  have hpositive : unsigned? ↑(max ((now.millisUntil later + 999) / 1000) 1) =
      some (now.secondsUntil later) := by
    rw [unsigned?_natCast (by omega), Nat.max_comm]
    rfl
  unfold secondsUntilInWords
  simp only [Option.bind_eq_bind, Option.bind_eq_some_iff]
  exact ⟨_, hspan, _, hmillis, _, hleft, _, hwhole, _, hrounded, hpositive⟩

/-- The later the clock is read, the fewer seconds are left. -/
theorem secondsUntil_anti (h : now.nanos ≤ later.nanos) :
    later.secondsUntil t ≤ now.secondsUntil t := by
  unfold secondsUntil millisUntil nanosPerMilli
  omega

end Instant

/-! ### From the configuration to the expiry -/

namespace Token.Codec

variable {config : Config} {c : Codec} {minted now expiry : Instant} {id : UserId} {noise : Noise}
  {subject token : String}

/-- A refresh token holds for the whole seconds of the lifetime that was configured. -/
theorem IsOf.expiry_of_mint (hof : c.IsOf config)
    (hmint : c.mint minted id noise subject (some .refresh) {} = .ok (expiry, token)) :
    0 < (config.refreshLifetime.seconds : Int) ∧
      minted.seconds + config.refreshLifetime.seconds ≤ Instant.lastSecond ∧
      expiry = .ofSeconds (minted.seconds + config.refreshLifetime.seconds) := by
  have hlifetime : c.lifetimeSeconds (some .refresh) {} = (config.refreshLifetime.seconds : Int) :=
    congrArg (fun d : Lifetime => (d.seconds : Int)) hof.refresh
  obtain ⟨hpositive, hexpiry, _⟩ := mint_eq_ok hmint
  have hlast := le_lastSecond_of_mint hmint
  rw [hlifetime] at hpositive hexpiry hlast
  exact ⟨hpositive, hlast, hexpiry⟩

/-- The expiry of a refresh token that was made is a date. -/
theorem IsOf.isDated_of_mint (hof : c.IsOf config) (hminted : minted.IsDated)
    (hmint : c.mint minted id noise subject (some .refresh) {} = .ok (expiry, token)) :
    expiry.IsDated := by
  obtain ⟨hpositive, hlast, rfl⟩ := hof.expiry_of_mint hmint
  unfold Instant.IsDated at hminted ⊢
  rw [Instant.seconds_ofSeconds]
  omega

/-- And it can be computed in words. -/
theorem IsOf.expiryInWords_eq (hof : c.IsOf config) (hminted : minted.IsDated)
    (hmint : c.mint minted id noise subject (some .refresh) {} = .ok (expiry, token)) :
    Instant.expiryInWords config.refreshLifetime minted = some expiry := by
  have hdated := hof.isDated_of_mint hminted hmint
  obtain ⟨hpositive, hlast, rfl⟩ := hof.expiry_of_mint hmint
  have hlimit : limit63 = 9223372036854775808 := rfl
  unfold Instant.IsDated at hminted hdated
  rw [Instant.seconds_ofSeconds] at hdated
  unfold Instant.firstSecond Instant.lastSecond at hminted
  have hlifetimeWord : signed? (config.refreshLifetime.seconds : Int) =
      some (config.refreshLifetime.seconds : Int) := by
    have hlongest : Lifetime.longest.nanos = 9223372036854775807000000 := by decide
    have hshort := hof.refreshLimit
    refine signed?_of_bounds ?_ ?_ <;> unfold Lifetime.seconds nanosPerSecond <;> omega
  have hmintedWord : signed? minted.seconds = some minted.seconds := by
    refine signed?_of_bounds ?_ ?_ <;> omega
  have hsumWord : signed? (minted.seconds + config.refreshLifetime.seconds) =
      some (minted.seconds + config.refreshLifetime.seconds) := by
    unfold Instant.lastSecond at hlast
    refine signed?_of_bounds ?_ ?_ <;> omega
  have hdate : Instant.ofSeconds? (minted.seconds + config.refreshLifetime.seconds) =
      some (.ofSeconds (minted.seconds + config.refreshLifetime.seconds)) := if_pos hdated
  unfold Instant.expiryInWords
  simp only [Option.bind_eq_bind, Option.bind_eq_some_iff]
  exact ⟨_, hlifetimeWord, _, hmintedWord, _, hsumWord, hdate⟩

/-- What is left when the clock is read again is not more than the lifetime. -/
theorem IsOf.secondsUntil_le (hof : c.IsOf config)
    (hmint : c.mint minted id noise subject (some .refresh) {} = .ok (expiry, token))
    (hlater : minted.nanos ≤ now.nanos) :
    now.secondsUntil expiry ≤ config.refreshLifetime.seconds := by
  obtain ⟨hpositive, _, rfl⟩ := hof.expiry_of_mint hmint
  refine Nat.le_trans (Instant.secondsUntil_anti hlater) ?_
  exact Int.ofNat_le.mp (Instant.secondsUntil_le hpositive)

end Token.Codec

/-! ### In the caches -/

namespace Cache

variable {seconds : Nat} {key value : String}

/-- Some seconds that are not too many are neither refused nor taken for a deletion. -/
theorem ListServer.execute_expire_eq {s : ListServer} (hfault : s.faults.get? "EXPIRE" = none)
    (hpos : 1 ≤ seconds) (hfits : seconds ≤ longestTtl) (at_ : Instant) (key : String) :
    s.execute at_ (.expire key seconds) =
      match s.live? at_ key with
      | none => (.count 0, s)
      | some stored =>
        (.count 1, s.store key (some { stored with expires := some (after at_ seconds) })) := by
  unfold ListServer.execute
  rw [show (Request.expire key seconds).name = "EXPIRE" from rfl, hfault]
  dsimp only
  rw [if_neg (by omega)]
  cases s.live? at_ key with
  | none => rfl
  | some stored =>
    dsimp only
    rw [if_neg (by omega), Int.toNat_natCast]

/-- The second at which a list expires is the sum of two words. -/
theorem seconds_after (at_ : Instant) (seconds : Nat) :
    (after at_ seconds).seconds = at_.seconds + seconds := by
  unfold after Instant.seconds nanosPerSecond
  dsimp only
  omega

/-- Added to a date, few seconds do not leave the words. -/
theorem signed?_after {at_ : Instant} (hat : at_.IsDated) (hfew : seconds ≤ longestTtl) :
    signed? (at_.seconds + seconds) = some (after at_ seconds).seconds := by
  have hlongest : longestTtl = 9223372036854775 := by decide
  have hlimit : limit63 = 9223372036854775808 := rfl
  rw [seconds_after]
  unfold Instant.IsDated Instant.firstSecond Instant.lastSecond at hat
  refine signed?_of_bounds ?_ ?_ <;> omega

/-- A list to which something is pushed in memory expires when it is told. -/
theorem Memory.expires_push (m : Memory) (at_ : Instant) (key value : String) (seconds : Nat) :
    ∃ held, (m.push at_ key value (some seconds)).lists.get? key = some held ∧
      held.expires = some (after at_ seconds) :=
  ⟨_, if_pos rfl, rfl⟩

end Cache

/-! ### In the service

The only command with a time to live is the push of a new session, for which the tokens have just
been made.  So nothing has to be known of the replies but that the clock shows dates.
-/

namespace Service

open Session (Registry Entry Fingerprint)

/-- The clock shows dates, and a push is given some seconds that are not too many. -/
def dated : Contract Effect Effect.Reply Unit where
  asks _ e := ∀ key value ttl, e = .cache (.push key value ttl) →
    ∃ seconds, ttl = some seconds ∧ 1 ≤ seconds ∧ seconds < longestTtl
  answers e _ reply _ := ∀ now, (⟨e, reply⟩ : Asked) = ⟨.clock, now⟩ → now.IsDated

/-- Every push of the call can be carried out, if the clock shows dates. -/
def PushesFit {α : Type} (call : Call α) : Prop := Call.Meets dated call (fun _ _ => True) ()

variable {α β : Type} {s : Service} {config : Config}

theorem PushesFit.bind {call : Call α} {f : α → Call β} (h : PushesFit call)
    (hf : ∀ value, PushesFit (f value)) : PushesFit (call >>= f) :=
  Call.Meets.bind h (fun _ value _ => hf value) fun _ _ _ => trivial

theorem PushesFit.lift {call : Call α} (h : PushesFit call) : PushesFit (ExceptT.lift call.run) :=
  Call.meets_lift.2 (h.mono fun _ _ _ => trivial)

theorem pushesFit_users (c : Users.Command) : PushesFit (Call.users c) :=
  ⟨nofun, fun _ _ _ => trivial⟩

theorem pushesFit_log (event : Event) : PushesFit (Call.log event) :=
  ⟨nofun, fun _ _ _ => trivial⟩

/-- A command to the cache that is no push. -/
theorem pushesFit_cache {c : Cache.Command} (h : ∀ key value ttl, c ≠ .push key value ttl) :
    PushesFit (Call.cache c) :=
  ⟨fun key value ttl he => absurd (Effect.cache.inj he) (h key value ttl), fun _ _ _ => trivial⟩

theorem undisturbed_dated : dated.Undisturbed (fun _ => True) Instant.IsDated where
  asks_clock _ _ := nofun
  asks_random _ _ _ := nofun
  asks_log _ _ _ _ := nofun
  clock _ now _ _ hanswer := ⟨hanswer now rfl, trivial⟩
  random _ _ _ _ _ _ := trivial
  log _ _ _ _ _ _ := trivial

theorem pushesFit_decode (codec : Codec) (token : String) : PushesFit (codec.decode token) :=
  decode_meets undisturbed_dated trivial (fun _ _ _ _ _ _ => trivial) fun _ _ _ _ _ => trivial

/-- Adding a session, with some seconds that are not too many. -/
theorem pushesFit_register {r : Registry} {user : UserId} {fingerprint token : String}
    {seconds : Nat} (hpos : 1 ≤ seconds) (hfew : seconds < longestTtl) :
    PushesFit (r.register user fingerprint token seconds) := by
  have hpush : PushesFit
      (Call.pushTo (Registry.key user) (Entry.encode ⟨fingerprint, token⟩) seconds) := by
    refine ⟨?_, fun _ _ _ => trivial⟩
    intro key value ttl he
    cases he
    exact ⟨seconds, rfl, hpos, hfew⟩
  have hadd : PushesFit (do
      Call.pushTo (Registry.key user) (Entry.encode ⟨fingerprint, token⟩) seconds
      Call.log (.sessionRegistered user)) := hpush.bind fun _ => pushesFit_log _
  unfold Registry.register
  refine PushesFit.bind (pushesFit_cache (by simp)) fun entries => ?_
  split
  · exact (pushesFit_log _).bind fun _ => (pushesFit_cache (by simp)).bind fun _ => hadd
  · exact hadd

/-- **The push of a new session can always be carried out.** -/
theorem pushesFit_issue (hof : s.codec.IsOf config) (user : UserId) (fingerprint : Fingerprint) :
    PushesFit (s.issue user fingerprint) := by
  unfold issue
  refine Call.meets_bind.2 (encode_meets undisturbed_dated trivial ?_)
  intro minted id noise _ hminted _
  cases hmint : s.codec.mint minted id noise user.toHex (some .refresh) {} with
  | error e => trivial
  | ok made =>
    obtain ⟨expiry, token⟩ := made
    refine Call.meets_bind.2 (encode_meets undisturbed_dated trivial ?_)
    intro minted' id' noise' _ _ _
    cases s.codec.mint minted' id' noise' user.toHex (some .access) {} with
    | error e => trivial
    | ok access =>
      refine Call.meets_bind.2 (meets_clock undisturbed_dated trivial ?_)
      intro now _ hnow _
      have hfew : now.secondsUntil expiry < longestTtl :=
        hnow.secondsUntil_lt (hof.isDated_of_mint hminted hmint)
      exact (pushesFit_register (Instant.one_le_secondsUntil _ _) hfew).bind fun _ => trivial

theorem pushesFit_credentials (login : String) (password : Password.ClearText) :
    PushesFit (s.credentials login password) := by
  unfold credentials
  refine (pushesFit_users _).bind fun found => ?_
  cases found with
  | none => trivial
  | some user =>
    dsimp only
    split <;> trivial

theorem pushesFit_resolve (token : String) (expected : Token.Kind) :
    PushesFit (s.resolve token expected) := by
  unfold resolve
  refine (pushesFit_decode _ _).bind fun payload => ?_
  refine PushesFit.bind (Call.meets_ofExcept.2 trivial) fun id => ?_
  refine (pushesFit_users _).bind fun found => ?_
  cases found with
  | none => trivial
  | some user =>
    dsimp only
    split <;> trivial

theorem pushesFit_consume (user : UserId) (fingerprint token : String) :
    PushesFit (Registry.consume user fingerprint token) := by
  have hdrop : PushesFit (do
      Call.dropList (Registry.key user)
      return false) := (pushesFit_cache (by simp)).bind fun _ => trivial
  unfold Registry.consume
  refine PushesFit.bind (pushesFit_cache (by simp)) fun entries => ?_
  split
  · trivial
  · split
    · refine PushesFit.bind (pushesFit_cache (by simp)) fun removed => ?_
      split
      · trivial
      · exact (pushesFit_log _).bind fun _ => hdrop
    · exact (pushesFit_log _).bind fun _ => hdrop

theorem pushesFit_revoke (user : UserId) (token : String) :
    PushesFit (Registry.revoke user token) := by
  unfold Registry.revoke
  refine PushesFit.bind (pushesFit_cache (by simp)) fun entries => ?_
  split
  · exact pushesFit_cache (by simp)
  · trivial

theorem pushesFit_inUnit {work : Call α} (h : PushesFit work) : PushesFit (Call.inUnit work) := by
  unfold Call.inUnit
  refine (pushesFit_users _).bind fun _ => h.lift.bind fun result => ?_
  cases result with
  | ok value => exact (pushesFit_users _).bind fun _ => trivial
  | error e =>
    refine (pushesFit_users _).lift.bind fun rolledBack => ?_
    cases rolledBack with
    | ok done => trivial
    | error cause => exact (pushesFit_log _).bind fun _ => trivial

/-- **No operation gives a push a time to live that could be refused**, if the clock shows dates. -/
theorem pushesFit_call (hconfig : Codec.ofConfig config = .ok s.codec) (op : Operation) :
    PushesFit (s.call op) := by
  have hof := Codec.isOf_of_ofConfig hconfig
  have hissue : ∀ (user : UserId) (fingerprint : Fingerprint) (event : IssuedTokens → Event),
      PushesFit (do
        let tokens ← s.issue user fingerprint
        Call.log (event tokens)
        return tokens) := fun user fingerprint event =>
    (pushesFit_issue hof user fingerprint).bind fun tokens =>
      (pushesFit_log (event tokens)).bind fun _ => trivial
  cases op with
  | login name password fingerprint =>
    exact pushesFit_inUnit ((pushesFit_credentials name password).bind fun user =>
      hissue user.id fingerprint _)
  | refresh fingerprint token =>
    refine pushesFit_inUnit ((pushesFit_resolve token .refresh).bind fun user =>
      (pushesFit_consume _ _ _).bind fun consumed => ?_)
    split
    · exact hissue user.id fingerprint _
    · trivial
  | logout token =>
    refine pushesFit_inUnit ((pushesFit_resolve token .refresh).bind fun user =>
      (pushesFit_revoke _ _).bind fun revoked => ?_)
    split
    · exact pushesFit_log _
    · trivial
  | authenticate token expected => exact pushesFit_inUnit (pushesFit_resolve token expected)

end Service

/-! ### All of it -/

/--
**Times to live can be written in words, and no cache refuses them.**  A codec was made from a
configuration and has made a refresh token at some date; at another date, earlier or later, the
seconds that are left are counted.  Both the expiry and these seconds can be computed in words.
They are at least one and fewer than a server can count in milliseconds, and after the token was
made not more than its lifetime.  So a push with them fails on no server for their sake, the
server neither refuses them nor deletes anything, and in memory they can be added to a date.
And while the clock shows dates, every push of every operation of a service with this codec is
given seconds within these bounds.
-/
theorem ttl_accepted {config : Config} {c : Codec} {minted now expiry : Instant} {id : UserId}
    {noise : Token.Noise} {subject token : String} (hconfig : Codec.ofConfig config = .ok c)
    (hmint : c.mint minted id noise subject (some .refresh) {} = .ok (expiry, token))
    (hminted : minted.IsDated) (hnow : now.IsDated) :
    Instant.expiryInWords config.refreshLifetime minted = some expiry ∧
    now.secondsUntilInWords expiry = some (now.secondsUntil expiry) ∧
    1 ≤ now.secondsUntil expiry ∧ now.secondsUntil expiry < longestTtl ∧
    (minted.nanos ≤ now.nanos → now.secondsUntil expiry ≤ config.refreshLifetime.seconds) ∧
    (∀ (s : ListServer) at_ key value text,
      (Cache.Remote.perform at_ (.push key value (some (now.secondsUntil expiry))) s).1 ≠
        .error (.internal text)) ∧
    (∀ (s : ListServer) at_ key, s.faults.get? "EXPIRE" = none →
      s.execute at_ (.expire key (now.secondsUntil expiry)) =
        match s.live? at_ key with
        | none => (.count 0, s)
        | some stored => (.count 1, s.store key
          (some { stored with expires := some (after at_ (now.secondsUntil expiry)) }))) ∧
    (∀ (m : Cache.Memory) at_ key value, at_.IsDated →
      ∃ held, (m.push at_ key value (some (now.secondsUntil expiry))).lists.get? key = some held ∧
        held.expires = some (after at_ (now.secondsUntil expiry)) ∧
        signed? (at_.seconds + now.secondsUntil expiry) =
          some (after at_ (now.secondsUntil expiry)).seconds) ∧
    ∀ (s : Service) (op : Service.Operation), s.codec = c → Service.PushesFit (s.call op) := by
  have hof := Codec.isOf_of_ofConfig hconfig
  have hdated := hof.isDated_of_mint hminted hmint
  have hpos := Instant.one_le_secondsUntil now expiry
  have hfew : now.secondsUntil expiry < longestTtl := hnow.secondsUntil_lt hdated
  refine ⟨hof.expiryInWords_eq hminted hmint, hnow.secondsUntilInWords_eq hdated, hpos, hfew,
    hof.secondsUntil_le hmint, ?_, ?_, ?_, ?_⟩
  · intro s at_ key value text herror
    have hlimit : longestTtl < limit63 := by decide
    have hsent : (some (now.secondsUntil expiry)).getD 0 < limit63 := hfew.trans hlimit
    obtain ⟨fault, hfault⟩ := Cache.Remote.fault_of_push hsent herror
    cases hfault
  · intro s at_ key hfault
    exact ListServer.execute_expire_eq hfault hpos hfew.le at_ key
  · intro m at_ key value hat
    obtain ⟨held, hheld, hexpires⟩ := m.expires_push at_ key value (now.secondsUntil expiry)
    exact ⟨held, hheld, hexpires, Cache.signed?_after hat hfew.le⟩
  · rintro s op rfl
    exact Service.pushesFit_call hconfig op

/-- The clock has gone back by a minute since the token was made for thirty days. -/
theorem ttl_accepted_backwards :
    Codec.ofConfig Service.Sample.oneByte = .ok Service.Sample.keyed ∧
    (Instant.ofSeconds 60).IsDated ∧ (Instant.ofSeconds 0).IsDated ∧
    ∃ expiry token,
      Service.Sample.keyed.mint (.ofSeconds 60) ⟨7⟩ 0 "a" (some .refresh) {} = .ok (expiry, token) ∧
      (Instant.ofSeconds 0).secondsUntilInWords expiry = some 2592060 ∧
      2592060 < longestTtl := by
  have hconfig : Codec.ofConfig Service.Sample.oneByte = .ok Service.Sample.keyed := rfl
  have hmint : Service.Sample.keyed.mint (.ofSeconds 60) ⟨7⟩ 0 "a" (some .refresh) {} = _ :=
    Codec.mint_shared rfl rfl (by decide) (by decide) (by decide)
  have hminted : (Instant.ofSeconds 60).IsDated := by decide
  have hnow : (Instant.ofSeconds 0).IsDated := by decide
  obtain ⟨_, hwords, _, hfew, _⟩ := ttl_accepted hconfig hmint hminted hnow
  have hseconds : (Instant.ofSeconds 0).secondsUntil (.ofSeconds ((Instant.ofSeconds 60).seconds +
      Service.Sample.keyed.lifetimeSeconds (some .refresh) {})) = 2592060 := by decide
  rw [hseconds] at hwords hfew
  exact ⟨hconfig, hminted, hnow, _, _, hmint, hwords, hfew⟩

end SessionAuth
