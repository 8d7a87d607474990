/-
What a command makes of the one list that it is about.

Seen by a client, a key holds a list with an expiry, or nothing.  `Command.leaves` says
what becomes of that by a command and `Command.answer` what the command replies, and
neither knows where the list is kept.  The cache in memory and the cache on a list server
both do exactly this at the key of a command and nothing at other keys
(`Memory.perform_eq`, `Remote.perform_eq`); the one lets an expired list lie until it is
next pushed to, the other drops it at once, but that shows at neither of them.

The server does so if it is in order, refuses nothing and is not given a time to live that
is too long for it.
-/
import SessionAuth.Proofs.Cache.Remote

namespace SessionAuth.Cache

/-! ### One list -/

namespace Command

/-- What a command replies when its key holds this, or nothing. -/
def answer : (c : Command) → Option Held → c.Reply
  | get _, held => ((held.map Held.values).getD [] : List String)
  | push _ _ _, _ => ()
  | remove _ value, held => decide (value ∈ (held.map Held.values).getD [])
  | delete _, _ => ()

/-- What the key of a command holds afterwards, when it held this, or nothing. -/
def leaves (now : Instant) : Command → Option Held → Option Held
  | get _, held => held
  | push _ value ttl, held =>
    let before := held.getD ⟨[], none⟩
    let expires := match ttl with
      | some seconds => some (after now seconds)
      | none => before.expires
    (some ⟨value :: before.values, expires⟩).filter (Held.isLive now)
  | remove _ value, held => held.bind fun before =>
    if (before.values.filter (· != value)).isEmpty then none
    else some ⟨before.values.filter (· != value), before.expires⟩
  | delete _, _ => none

/-- A time to live, if one is given, that is not too long for a server. -/
def Fits : Command → Prop
  | push _ _ (some seconds) => seconds ≤ longestTtl
  | _ => True

instance : DecidablePred Fits
  | push _ _ (some seconds) => inferInstanceAs (Decidable (seconds ≤ longestTtl))
  | push _ _ none | get _ | remove _ _ | delete _ => inferInstanceAs (Decidable True)

end Command

variable {now : Instant} {key other value : String} {held : Held}

/-- A list that expires at once does not count. -/
theorem Held.isLive_after_zero (now : Instant) (values : List String) :
    (Held.mk values (some (after now 0))).isLive now = false := by
  simp [Held.isLive, after]

/-- Whether a list counts does not depend on its values. -/
theorem Held.isLive_mk (h : held.isLive now = true) (values : List String) :
    (Held.mk values held.expires).isLive now = true := h

/-- Something that is put in front without a time to live stays as long as the list did. -/
theorem Command.leaves_push_none {before : Option Held}
    (h : ∀ held, before = some held → held.isLive now = true) :
    (Command.push key value none).leaves now before =
      some ⟨value :: (before.getD ⟨[], none⟩).values, (before.getD ⟨[], none⟩).expires⟩ := by
  cases before with
  | none => rfl
  | some held => exact if_pos (Held.isLive_mk (h held rfl) _)

/-! ### In memory -/

namespace Memory

variable {m : Memory}

theorem live?_push (now : Instant) (key value : String) (ttl : Option Nat) (m : Memory) :
    (m.push now key value ttl).live? now key =
      (Command.push key value ttl).leaves now (m.live? now key) := by
  show ((m.lists.insert key _).get? key).filter _ = _
  rw [Table.get?_insert, if_pos rfl]
  rfl

/-- **In memory a command replies and leaves what it should, and spares the other keys.** -/
theorem perform_eq (now : Instant) (c : Command) (m : Memory) :
    (perform now c m).1 = .ok (c.answer (m.live? now c.key)) ∧
      (perform now c m).2.live? now c.key = c.leaves now (m.live? now c.key) ∧
      ∀ other ≠ c.key, (perform now c m).2.live? now other = m.live? now other := by
  cases c with
  | get key => exact ⟨rfl, rfl, fun _ _ => rfl⟩
  | push key value ttl =>
    exact ⟨rfl, live?_push now key value ttl m, fun other hother => live?_push_ne hother⟩
  | remove key value =>
    refine ⟨?_, live?_remove_self, fun other hother => live?_remove_ne hother⟩
    exact congrArg Except.ok remove_fst
  | delete key => exact ⟨rfl, live?_erase_self, fun other hother => live?_erase_ne hother⟩

end Memory

/-! ### On a server -/

namespace ListServer

variable {s : ListServer}

/-- The list at a key and its expiry, as a client sees them. -/
def held? (s : ListServer) (now : Instant) (key : String) : Option Held :=
  match s.live? now key with
  | some ⟨.list values, expires⟩ => some ⟨values, expires⟩
  | _ => none

/-- A server that is in order and refuses nothing. -/
structure Willing (s : ListServer) : Prop where
  inOrder : s.InOrder
  faults : ∀ name, s.faults.get? name = none

/-- On a server in order all that a key can hold is a list. -/
theorem InOrder.live?_eq (h : s.InOrder) (now : Instant) (key : String) :
    s.live? now key = (s.held? now key).map fun held => ⟨.list held.values, held.expires⟩ := by
  unfold held?
  rcases h.live?_cases now key with hlive | ⟨values, expires, hlive⟩ <;> simp [hlive]

theorem values_eq (s : ListServer) (now : Instant) (key : String) :
    s.values now key = ((s.held? now key).map Held.values).getD [] := by
  unfold values held?
  rcases s.live? now key with _ | ⟨content, expires⟩
  · rfl
  · cases content <;> rfl

theorem ttl_eq (h : s.InOrder) (now : Instant) (key : String) :
    s.ttl now key = (s.held? now key).bind (Held.ttl now) := by
  unfold ttl
  rw [h.live?_eq]
  cases s.held? now key <;> rfl

theorem isLive_of_held? (h : s.held? now key = some held) : held.isLive now = true := by
  unfold held? at h
  split at h
  · rename_i values expires hlive
    cases h
    exact isLive_of_live? hlive values
  · cases h

/-- What a client sees depends on the stored keys only. -/
theorem held?_congr {s' : ListServer} (h : s'.keys = s.keys) :
    s'.held? now key = s.held? now key := by
  unfold held? live?
  rw [h]

theorem held?_store_self (s : ListServer) (now : Instant) (key : String) (stored : Option Held) :
    (s.store key (stored.map fun held => ⟨.list held.values, held.expires⟩)).held? now key =
      stored.filter (Held.isLive now) := by
  unfold held?
  rw [live?_store_self]
  cases stored with
  | none => rfl
  | some held =>
    by_cases hlive : held.isLive now = true
    · have hstored : (Held.mk [] held.expires).isLive now = true := hlive
      simp [Option.filter, hlive, hstored]
    · have hstored : ¬ (Held.mk [] held.expires).isLive now = true := hlive
      simp [Option.filter, hlive, hstored]

theorem held?_store_ne {stored : Option Stored} (h : other ≠ key) :
    (s.store key stored).held? now other = s.held? now other := by
  unfold held?
  rw [live?_store_ne h]

/-! Commands that are not refused. -/

theorem Willing.execute (h : s.Willing) (now : Instant) (r : Request) :
    (s.execute now r).2.Willing :=
  ⟨h.inOrder.execute now r, fun name => by rw [faults_execute]; exact h.faults name⟩

theorem held?_lpush (h : s.Willing) (now : Instant) (key value : String) :
    (s.execute now (.lpush key value)).2.held? now key =
        some ⟨value :: ((s.held? now key).getD ⟨[], none⟩).values,
          ((s.held? now key).getD ⟨[], none⟩).expires⟩ ∧
      ∀ other ≠ key, (s.execute now (.lpush key value)).2.held? now other = s.held? now other := by
  unfold ListServer.execute
  rw [h.faults]
  dsimp only
  rw [h.inOrder.live?_eq]
  cases hheld : s.held? now key with
  | none =>
    have hstored : (s.store key (some ⟨.list [value], none⟩)).held? now key =
        some ⟨[value], none⟩ := held?_store_self s now key (some ⟨[value], none⟩)
    exact ⟨hstored, fun other hother => held?_store_ne hother⟩
  | some held =>
    have hstored : (s.store key (some ⟨.list (value :: held.values), held.expires⟩)).held? now key =
        (some ⟨value :: held.values, held.expires⟩ : Option Held).filter (Held.isLive now) :=
      held?_store_self s now key (some ⟨value :: held.values, held.expires⟩)
    rw [Option.filter_some, if_pos (Held.isLive_mk (isLive_of_held? hheld) _)] at hstored
    exact ⟨hstored, fun other hother => held?_store_ne hother⟩

theorem held?_expire (h : s.Willing) {seconds : Nat} (hlong : seconds ≤ longestTtl)
    (hheld : s.held? now key = some held) :
    (s.execute now (.expire key seconds)).2.held? now key =
        (some ⟨held.values, some (after now seconds)⟩ : Option Held).filter (Held.isLive now) ∧
      ∀ other ≠ key, (s.execute now (.expire key seconds)).2.held? now other =
        s.held? now other := by
  unfold ListServer.execute
  rw [h.faults]
  dsimp only
  rw [if_neg (by omega), h.inOrder.live?_eq, hheld]
  dsimp only [Option.map_some]
  by_cases hzero : seconds = 0
  · subst hzero
    rw [if_pos (by simp), Option.filter_some, Held.isLive_after_zero]
    exact ⟨held?_store_self s now key none, fun other hother => held?_store_ne hother⟩
  · rw [if_neg (by omega), Int.toNat_natCast]
    exact ⟨held?_store_self s now key (some ⟨held.values, some (after now seconds)⟩),
      fun other hother => held?_store_ne hother⟩

theorem held?_lrem (h : s.Willing) (now : Instant) (key value : String) :
    (s.execute now (.lrem key value)).2.held? now key =
        (Command.remove key value).leaves now (s.held? now key) ∧
      ∀ other ≠ key, (s.execute now (.lrem key value)).2.held? now other = s.held? now other := by
  unfold ListServer.execute
  rw [h.faults]
  dsimp only
  rw [h.inOrder.live?_eq]
  cases hheld : s.held? now key with
  | none => exact ⟨hheld, fun other _ => rfl⟩
  | some held =>
    dsimp only [Option.map_some, Command.leaves, Option.bind_some]
    split
    · exact ⟨held?_store_self s now key none, fun other hother => held?_store_ne hother⟩
    · refine ⟨?_, fun other hother => held?_store_ne hother⟩
      have hstored := held?_store_self s now key
        (some ⟨held.values.filter (· != value), held.expires⟩)
      rw [Option.filter_some, if_pos (Held.isLive_mk (isLive_of_held? hheld) _)] at hstored
      exact hstored

theorem held?_del (h : s.Willing) (now : Instant) (key : String) :
    (s.execute now (.del key)).2.held? now key = none ∧
      ∀ other ≠ key, (s.execute now (.del key)).2.held? now other = s.held? now other := by
  unfold ListServer.execute
  rw [h.faults]
  dsimp only
  split <;>
    exact ⟨held?_store_self s now key none, fun other hother => held?_store_ne hother⟩

end ListServer

namespace Remote

open ListServer

variable {s : ListServer}

/-- The two steps of a push; the second one is there when a time to live is given. -/
def pushSteps (key value : String) (ttl : Option Nat) : List Request :=
  .lpush key value :: (ttl.map fun seconds => Request.expire key seconds).toList

/-- A willing server carries out the steps of a push. -/
theorem send_push_of_willing (h : s.Willing) (now : Instant) (key value : String)
    (ttl : Option Nat) : ∃ before : ListServer, before.keys = s.keys ∧ before.Willing ∧
      send now (pushRequests key value ttl) (.queued []) s =
        (.queued (executeAll now (pushSteps key value ttl) before).1,
          (executeAll now (pushSteps key value ttl) before).2) := by
  cases ttl with
  | some seconds =>
    refine ⟨pushed s key value seconds, rfl, ⟨⟨rfl, h.inOrder.lists⟩, h.faults⟩, ?_⟩
    rcases send_push h.inOrder.queue now key value seconds (h.faults _) with ⟨line, hexec, _⟩ | ⟨_, hsend⟩
    · rw [h.faults] at hexec
      cases hexec
    · exact hsend
  | none =>
    refine ⟨queueing (((s.noted .multi).noted (.lpush key value)).noted .exec) none, rfl,
      ⟨⟨rfl, h.inOrder.lists⟩, h.faults⟩, ?_⟩
    have hsend : send now (pushRequests key value none) (.queued []) s =
        ListServer.receive now .exec
          (ListServer.receive now (.lpush key value) (s.receive now .multi).2).2 := rfl
    rw [hsend, receive_multi h.inOrder.queue (h.faults _),
      receive_queued (r := .lpush key value) rfl (by simp)]
    exact receive_exec [.lpush key value] rfl (h.faults _)

theorem perform_push_eq (h : s.Willing) (now : Instant) (key value : String) (ttl : Option Nat)
    (hfits : (Command.push key value ttl).Fits) :
    (perform now (.push key value ttl) s).1 = .ok () ∧
      (perform now (.push key value ttl) s).2.Willing ∧
      (perform now (.push key value ttl) s).2.held? now key =
        (Command.push key value ttl).leaves now (s.held? now key) ∧
      ∀ other ≠ key,
        (perform now (.push key value ttl) s).2.held? now other = s.held? now other := by
  have hinRange : ¬ ttl.getD 0 ≥ limit63 := by
    cases ttl with
    | none => decide
    | some seconds =>
      have hlimit : longestTtl < limit63 := by decide
      exact Nat.not_le.mpr (Nat.lt_of_le_of_lt hfits hlimit)
  obtain ⟨before, hkeys, hwilling, hsend⟩ := send_push_of_willing h now key value ttl
  have hperform : perform now (.push key value ttl) s =
      (queueOf (send now (pushRequests key value ttl) (.queued []) s).1,
        (send now (pushRequests key value ttl) (.queued []) s).2) := if_neg hinRange
  obtain ⟨count, hcount, _⟩ := execute_lpush hwilling.inOrder (hwilling.faults _) now key value
  obtain ⟨hself, helsewhere⟩ := held?_lpush hwilling now key value
  have hafter := hwilling.execute now (.lpush key value)
  rw [held?_congr hkeys] at hself
  rw [hperform, hsend]
  cases ttl with
  | none =>
    have hall : executeAll now (pushSteps key value none) before =
        ([(before.execute now (.lpush key value)).1],
          (before.execute now (.lpush key value)).2) := rfl
    rw [hall, hcount]
    refine ⟨rfl, hafter, ?_, ?_⟩
    · rw [hself, Command.leaves_push_none fun held hheld => isLive_of_held? hheld]
    · intro other hother
      rw [helsewhere other hother, held?_congr hkeys]
  | some seconds =>
    obtain ⟨answer, hanswer⟩ := execute_expire (hafter.faults _) hfits now key
    obtain ⟨hself', helsewhere'⟩ := held?_expire hafter hfits hself
    have hall : executeAll now (pushSteps key value (some seconds)) before =
        _ := executeAll_push now key value seconds before
    rw [hall, hcount, hanswer]
    refine ⟨rfl, hafter.execute now _, hself', ?_⟩
    intro other hother
    rw [helsewhere' other hother, helsewhere other hother, held?_congr hkeys]

/-- A willing server carries out a single command and stays willing. -/
theorem receive_of_willing (h : s.Willing) (now : Instant) {r : Request} (hmulti : r ≠ .multi) :
    ∃ before : ListServer, before.keys = s.keys ∧ before.Willing ∧
      s.receive now r = (.single (before.execute now r).1, (before.execute now r).2) :=
  ⟨s.noted r, rfl, ⟨h.inOrder.noted, h.faults⟩, receive_at_once h.inOrder.queue now hmulti⟩

/--
**On a willing server a command replies and leaves what it should, and spares the other
keys**, unless it is given a time to live that is too long.
-/
theorem perform_eq (h : s.Willing) (now : Instant) (c : Command) (hfits : c.Fits) :
    (perform now c s).1 = .ok (c.answer (s.held? now c.key)) ∧
      (perform now c s).2.Willing ∧
      (perform now c s).2.held? now c.key = c.leaves now (s.held? now c.key) ∧
      ∀ other ≠ c.key, (perform now c s).2.held? now other = s.held? now other := by
  cases c with
  | get key =>
    have hkeys := keys_get now key s
    obtain ⟨before, _, hwilling, hreceive⟩ :=
      receive_of_willing h now (r := .lrange key) (by simp)
    have hafter : (perform now (.get key) s).2 = (before.execute now (.lrange key)).2 :=
      congrArg Prod.snd hreceive
    refine ⟨?_, ?_, held?_congr hkeys, fun other _ => held?_congr hkeys⟩
    · rcases get_cases h.inOrder now key with ⟨_, hreply⟩ | ⟨hrefused, _⟩
      · rw [hreply, values_eq]
        rfl
      · exact absurd (h.faults _) hrefused
    · rw [hafter]
      exact hwilling.execute now _
  | push key value ttl => exact perform_push_eq h now key value ttl hfits
  | remove key value =>
    obtain ⟨before, hkeys, hwilling, hreceive⟩ :=
      receive_of_willing h now (r := .lrem key value) (by simp)
    have hafter : (perform now (.remove key value) s).2 =
        (before.execute now (.lrem key value)).2 :=
      congrArg Prod.snd hreceive
    obtain ⟨hself, helsewhere⟩ := held?_lrem hwilling now key value
    rw [hafter]
    refine ⟨?_, hwilling.execute now _, ?_, ?_⟩
    · rcases remove_cases h.inOrder now key value with ⟨_, hreply, _⟩ | ⟨hrefused, _⟩
      · rw [hreply, values_eq]
        rfl
      · exact absurd (h.faults _) hrefused
    · exact hself.trans (congrArg _ (held?_congr hkeys))
    · intro other hother
      rw [helsewhere other hother, held?_congr hkeys]
  | delete key =>
    obtain ⟨before, hkeys, hwilling, hreceive⟩ :=
      receive_of_willing h now (r := .del key) (by simp)
    have hafter : (perform now (.delete key) s).2 = (before.execute now (.del key)).2 :=
      congrArg Prod.snd hreceive
    obtain ⟨hself, helsewhere⟩ := held?_del hwilling now key
    rw [hafter]
    refine ⟨?_, hwilling.execute now _, hself, ?_⟩
    · rcases delete_cases h.inOrder now key with ⟨_, hreply, _⟩ | ⟨hrefused, _⟩
      · exact hreply
      · exact absurd (h.faults _) hrefused
    · intro other hother
      rw [helsewhere other hother, held?_congr hkeys]

end Remote

end SessionAuth.Cache
