/-
The sessions of a user, without the cache.

An account is what a user has: pairs of a fingerprint and a refresh token, newest first,
and one second at which all of them expire.  Adding a session gives all of them new time;
ending one leaves the others their time.

A cache in memory keeps the accounts of users as lists of texts.  `Account.held` is what
it should hold for an account at some second, and the lemmas here say that each command
to the cache does to the list what should be done to the account.
-/
import SessionAuth.Proofs.Service.Alone

namespace SessionAuth.Session

open Registry (stored)

/-- Sessions, newest first, and the second at which all of them expire. -/
structure Account where
  sessions : List (Fingerprint × String) := []
  expires : Int := 0

namespace Account

/-- The sessions that count at a second. -/
def unexpired (a : Account) (now : Int) : List (Fingerprint × String) :=
  if now < a.expires then a.sessions else []

/-- A session is put in front of those that count, and all get the same time to live. -/
def add (a : Account) (now lifetime : Int) (session : Fingerprint × String) : Account :=
  ⟨session :: a.unexpired now, now + lifetime⟩

/-- All sessions are dropped if as many as allowed, or more, count. -/
def clearFull (a : Account) (now : Int) (maxSessions : Nat) : Account :=
  if maxSessions ≤ (a.unexpired now).length then {} else a

/-- One session is ended. -/
def without (a : Account) (session : Fingerprint × String) : Account :=
  { a with sessions := a.sessions.erase session }

/-- What a cache holds for the account at a second. -/
def held (a : Account) (now : Int) : Option Cache.Held :=
  if a.unexpired now = [] then none
  else some ⟨(a.unexpired now).map stored, some (.ofSeconds a.expires)⟩

variable {a : Account} {now later lifetime : Int} {session : Fingerprint × String}

/-! ### Sessions -/

theorem unexpired_sublist (a : Account) (now : Int) : (a.unexpired now).Sublist a.sessions := by
  unfold unexpired
  split
  · exact List.Sublist.refl _
  · exact List.nil_sublist _

theorem unexpired_add (h : 0 < lifetime) :
    (a.add now lifetime session).unexpired now = session :: a.unexpired now := by
  show (if now < now + lifetime then _ else _) = _
  rw [if_pos (by omega)]
  rfl

/-- A session that counts can be ended among those that count. -/
theorem unexpired_without :
    (a.without session).unexpired now = (a.unexpired now).erase session := by
  unfold unexpired
  show (if now < a.expires then a.sessions.erase session else []) = _
  split <;> rfl

theorem unexpired_empty (now : Int) : unexpired {} now = [] := by
  unfold unexpired
  split <;> rfl

/-- In an account that is not full there is room for one more session. -/
theorem length_clearFull {maxSessions : Nat} (hmax : 1 ≤ maxSessions) :
    ((a.clearFull now maxSessions).unexpired now).length < maxSessions := by
  unfold clearFull
  split
  · rw [unexpired_empty, List.length_nil]
    omega
  · omega

theorem clearFull_sublist {maxSessions : Nat} :
    ((a.clearFull now maxSessions).unexpired now).Sublist a.sessions := by
  unfold clearFull
  split
  · refine List.Sublist.trans (unexpired_sublist _ _) ?_
    exact List.nil_sublist _
  · exact unexpired_sublist _ _

/-- An account with room is not cleared. -/
theorem clearFull_of_lt {maxSessions : Nat} (h : (a.unexpired now).length < maxSessions) :
    a.clearFull now maxSessions = a :=
  if_neg (by omega)

/-! ### What the cache holds -/

/-- The list that is read is that of the sessions that count. -/
theorem values_held :
    ((a.held now).map Cache.Held.values).getD [] = (a.unexpired now).map stored := by
  unfold held
  split
  · rename_i h
    rw [h]
    rfl
  · rfl

theorem isLive_ofSeconds {values : List String} {expires : Int} :
    Cache.Held.isLive (.ofSeconds now) ⟨values, some (.ofSeconds expires)⟩ =
      decide (now < expires) := by
  unfold Cache.Held.isLive Instant.ofSeconds
  simp only [decide_eq_decide]
  have hpos := Cache.nanosPerSecond_pos
  constructor
  · intro h
    exact Int.lt_of_mul_lt_mul_right h (by omega)
  · intro h
    exact Int.mul_lt_mul_of_pos_right h (by omega)

/-- Later on the cache holds what of this has not expired. -/
theorem held_later (hle : now ≤ later) :
    a.held later = (a.held now).filter (Cache.Held.isLive (.ofSeconds later)) := by
  unfold held unexpired
  by_cases hlater : later < a.expires
  · rw [if_pos hlater, if_pos (by omega : now < a.expires)]
    split
    · rfl
    · rw [Option.filter_some, isLive_ofSeconds, decide_eq_true hlater, if_pos rfl]
  · rw [if_neg hlater, if_pos rfl]
    generalize (if now < a.expires then a.sessions else []) = sessions
    split
    · rfl
    · rw [Option.filter_some, isLive_ofSeconds, decide_eq_false hlater]
      rfl

/-! ### Commands -/

section Commands

variable {m : Cache.Memory} {key : String} {seconds : Nat}

theorem values_of_held (h : m.live? (.ofSeconds now) key = a.held now) :
    m.values (.ofSeconds now) key = (a.unexpired now).map stored := by
  unfold Cache.Memory.values
  rw [h, values_held]

theorem live?_push (h : m.live? (.ofSeconds now) key = a.held now) (hpos : 1 ≤ seconds) :
    (m.push (.ofSeconds now) key (stored session) (some seconds)).live? (.ofSeconds now) key =
      (a.add now seconds session).held now := by
  have hexpires : Cache.after (.ofSeconds now) seconds = .ofSeconds (now + seconds) := by
    unfold Cache.after Instant.ofSeconds
    rw [Int.add_mul]
  unfold held
  rw [Cache.Memory.live?_push_self hpos, values_of_held h, unexpired_add (by omega), hexpires,
    if_neg (List.cons_ne_nil _ _)]
  rfl

theorem live?_erase : (Cache.Memory.mk (m.lists.erase key)).live? (.ofSeconds now) key =
    Account.held {} now := by
  rw [Cache.Memory.live?_erase_self]
  unfold held
  rw [if_pos (unexpired_empty now)]

/-- A session is added as it should be, those that were too many being dropped before. -/
theorem live?_registered {r : Registry} (h : m.live? (.ofSeconds now) key = a.held now)
    (hpos : 1 ≤ seconds) :
    (Service.registered r (.ofSeconds now) key (stored session) seconds m).live?
        (.ofSeconds now) key =
      ((a.clearFull now r.maxSessions).add now seconds session).held now := by
  unfold Service.registered clearFull
  rw [values_of_held h, List.length_map]
  split
  · exact live?_push live?_erase hpos
  · exact live?_push h hpos

/-- A session is taken out as it should be. -/
theorem live?_remove (h : m.live? (.ofSeconds now) key = a.held now)
    (hmem : session ∈ a.unexpired now) (hcolon : ∀ other ∈ a.sessions, ':' ∉ other.2.toList)
    (hnodup : (a.sessions.map Prod.snd).Nodup) :
    (m.remove (.ofSeconds now) key (stored session)).2.live? (.ofSeconds now) key =
      (a.without session).held now := by
  have hsome : a.unexpired now ≠ [] := List.ne_nil_of_mem hmem
  have hkept : ((a.unexpired now).map stored).filter (· != stored session) =
      ((a.unexpired now).erase session).map stored :=
    Registry.filter_stored hmem
      (fun other hother => hcolon other ((a.unexpired_sublist now).subset hother))
      (hnodup.sublist ((a.unexpired_sublist now).map _))
  rw [Cache.Memory.live?_remove_self, h]
  unfold held
  rw [if_neg hsome, Option.bind_some]
  simp only [hkept, unexpired_without, List.isEmpty_iff, List.map_eq_nil_iff]
  rfl

end Commands

end Account

end SessionAuth.Session
