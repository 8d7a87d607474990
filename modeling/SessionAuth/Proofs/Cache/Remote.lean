/-
What the commands make of a list on a server.

Everything is said about the values that a client would read at a key.  A server in order
(`InOrder`) has no commands queued and holds lists only; no command of the cache takes it
out of order.  Its commands do to the values what they do in memory, unless the server
refuses one of them, and the refusal is what the client gets.

A push is two commands in a queue.  When the queue is refused nothing has happened; when
one of the two is refused the other one has happened all the same.
-/
import SessionAuth.Cache.Remote
import SessionAuth.Proofs.Cache.Memory

namespace SessionAuth.Cache

namespace ListServer

variable {s : ListServer} {now : Instant} {key other value : String} {seconds : Nat} {r : Request}

/-! ### What is live -/

theorem live?_store_self {stored : Option Stored} :
    (s.store key stored).live? now key =
      stored.filter fun stored => (Held.mk [] stored.expires).isLive now := by
  unfold live? store
  rw [Table.get?_put, if_pos rfl]

theorem live?_store_ne {stored : Option Stored} (h : other ≠ key) :
    (s.store key stored).live? now other = s.live? now other := by
  unfold live? store
  rw [Table.get?_put, if_neg h]

/-- What a client reads depends on the stored keys only. -/
theorem values_congr {s' : ListServer} (h : s'.keys = s.keys) :
    s'.values now key = s.values now key := by
  unfold values live?
  rw [h]

theorem values_store_ne {stored : Option Stored} (h : other ≠ key) :
    (s.store key stored).values now other = s.values now other := by
  unfold values
  rw [live?_store_ne h]

/-- Whatever is live counts at this instant, whatever list it is. -/
theorem isLive_of_live? {stored : Stored} (h : s.live? now key = some stored)
    (values : List String) : (Held.mk values stored.expires).isLive now = true :=
  (Option.filter_eq_some_iff.mp h).2

/-- A list that is stored in the place of a live one is live. -/
theorem values_store_list {values : List String} {stored : Stored}
    (h : s.live? now key = some stored) :
    (s.store key (some ⟨.list values, stored.expires⟩)).values now key = values := by
  unfold ListServer.values
  rw [live?_store_self, Option.filter_some, if_pos (isLive_of_live? h [])]

theorem values_store_none : (s.store key none).values now key = [] := by
  unfold values
  rw [live?_store_self]
  rfl

/-! ### Servers in order -/

/-- Nothing is queued, and what is stored are lists. -/
structure InOrder (s : ListServer) : Prop where
  queue : s.queue = none
  lists : ∀ key stored, s.keys.get? key = some stored → stored.content ≠ .text

/-- In a server in order a key holds a live list or nothing. -/
theorem InOrder.live?_cases (h : s.InOrder) (now : Instant) (key : String) :
    s.live? now key = none ∨ ∃ values expires, s.live? now key = some ⟨.list values, expires⟩ := by
  cases hlive : s.live? now key with
  | none => exact Or.inl rfl
  | some stored =>
    obtain ⟨content, expires⟩ := stored
    have hget := (Option.filter_eq_some_iff.mp hlive).1
    cases content with
    | list values => exact Or.inr ⟨values, expires, rfl⟩
    | text => exact absurd rfl (h.lists key _ hget)

theorem InOrder.store (h : s.InOrder) {stored : Option Stored}
    (hlist : ∀ new, stored = some new → new.content ≠ .text) : (s.store key stored).InOrder := by
  refine ⟨h.queue, ?_⟩
  intro k new hget
  unfold ListServer.store at hget
  rw [Table.get?_put] at hget
  split at hget
  · exact hlist new hget
  · exact h.lists k new hget

/-- What has been received and what is refused does not matter to the order. -/
theorem InOrder.congr {s' : ListServer} (h : s.InOrder) (hkeys : s'.keys = s.keys)
    (hqueue : s'.queue = none) : s'.InOrder :=
  ⟨hqueue, fun key stored hget => h.lists key stored (hkeys ▸ hget)⟩

/-! ### Single commands -/

/-- A refused command changes nothing. -/
theorem execute_refused {line : String} (h : s.faults.get? r.name = some line) :
    s.execute now r = (.refused line, s) := by
  unfold execute
  rw [h]

/-- A command does not change what is refused. -/
theorem faults_execute (now : Instant) (r : Request) (s : ListServer) :
    (s.execute now r).2.faults = s.faults := by
  unfold execute
  split
  · rfl
  · cases r <;> dsimp only <;> repeat' split
    all_goals rfl

/-- A command keeps a server in order. -/
theorem InOrder.execute (h : s.InOrder) (now : Instant) (r : Request) :
    (s.execute now r).2.InOrder := by
  have hnew : ∀ {key} {values : List String} {expires : Option Instant},
      (s.store key (some ⟨.list values, expires⟩)).InOrder := fun {key values expires} =>
    h.store fun new hnew => by cases hnew; simp
  have hgone : ∀ {key}, (s.store key none).InOrder := fun {key} =>
    h.store fun new hnew => by cases hnew
  unfold ListServer.execute
  split
  · exact h
  · cases r with
    | lrange key => dsimp only; split <;> exact h
    | lpush key value =>
      dsimp only
      split
      · exact hnew
      · exact hnew
      · exact h
    | expire key seconds =>
      dsimp only
      split
      · exact h
      · split
        · exact h
        · rename_i stored hlive
          split
          · exact hgone
          · refine h.store ?_
            intro new hnew
            cases hnew
            exact h.lists key stored (Option.filter_eq_some_iff.mp hlive).1
    | lrem key value =>
      dsimp only
      split
      · exact h
      · split
        · exact hgone
        · exact hnew
      · exact h
    | del key => dsimp only; split <;> exact hgone
    | ping => exact h
    | multi => exact h
    | exec => exact h

/-- Reading a list. -/
theorem execute_lrange (h : s.InOrder) (hfault : s.faults.get? "LRANGE" = none) :
    s.execute now (.lrange key) = (.values (s.values now key), s) := by
  unfold execute values
  rw [show (Request.lrange key).name = "LRANGE" from rfl, hfault]
  rcases h.live?_cases now key with hlive | ⟨values, expires, hlive⟩ <;> simp only [hlive]

/-- Putting a value in front. -/
theorem execute_lpush (h : s.InOrder) (hfault : s.faults.get? "LPUSH" = none) (now : Instant)
    (key value : String) :
    ∃ count, (s.execute now (.lpush key value)).1 = .count count ∧
      (s.execute now (.lpush key value)).2.values now key = value :: s.values now key := by
  unfold execute
  rw [show (Request.lpush key value).name = "LPUSH" from rfl, hfault]
  rcases h.live?_cases now key with hlive | ⟨values, expires, hlive⟩
  · simp only [hlive]
    refine ⟨1, rfl, ?_⟩
    unfold ListServer.values
    rw [live?_store_self, hlive]
    rfl
  · simp only [hlive]
    refine ⟨values.length + 1, rfl, ?_⟩
    rw [show s.values now key = values by unfold ListServer.values; rw [hlive]]
    exact values_store_list hlive

/-- Giving a list some time leaves its values, whether it is refused or not. -/
theorem values_expire (h : 1 ≤ seconds) :
    (s.execute now (.expire key seconds)).2.values now other = s.values now other := by
  unfold execute
  split
  · rfl
  · dsimp only
    split
    · rfl
    · split
      · rfl
      · rename_i stored hlive
        rw [if_neg (by omega)]
        by_cases hkey : other = key
        · subst hkey
          unfold values
          rw [live?_store_self, hlive, Option.filter_some]
          rw [if_pos (Held.isLive_after (by omega))]
          obtain ⟨content, expires⟩ := stored
          cases content <;> rfl
        · exact values_store_ne hkey

/-- Giving a list some time is answered with a number, unless it is refused or too long. -/
theorem execute_expire (hfault : s.faults.get? "EXPIRE" = none) (hlong : seconds ≤ longestTtl)
    (now : Instant) (key : String) :
    ∃ count, (s.execute now (.expire key seconds)).1 = .count count := by
  unfold execute
  rw [show (Request.expire key seconds).name = "EXPIRE" from rfl, hfault]
  dsimp only
  rw [if_neg (by omega)]
  split
  · exact ⟨0, rfl⟩
  · split <;> exact ⟨1, rfl⟩

/-- Taking every copy of a value out. -/
theorem execute_lrem (h : s.InOrder) (hfault : s.faults.get? "LREM" = none) (now : Instant)
    (key value : String) :
    (∃ count, (s.execute now (.lrem key value)).1 = .count count ∧
        (0 < count ↔ value ∈ s.values now key)) ∧
      (s.execute now (.lrem key value)).2.values now key =
        (s.values now key).filter (· != value) := by
  unfold execute
  rw [show (Request.lrem key value).name = "LREM" from rfl, hfault]
  rcases h.live?_cases now key with hlive | ⟨values, expires, hlive⟩
  · have hvalues : s.values now key = [] := by
      unfold ListServer.values
      rw [hlive]
    simp only [hlive, hvalues]
    exact ⟨⟨0, rfl, by simp⟩, rfl⟩
  · have hvalues : s.values now key = values := by
      unfold ListServer.values
      rw [hlive]
    simp only [hlive, hvalues]
    refine ⟨⟨_, rfl, ?_⟩, ?_⟩
    · rw [Nat.sub_pos_iff_lt, List.length_filter_lt_length_iff_exists]
      simp
    · split
      · rename_i hempty
        rw [values_store_none]
        exact (List.isEmpty_iff.mp hempty).symm
      · exact values_store_list hlive

/-- Dropping a list. -/
theorem execute_del (hfault : s.faults.get? "DEL" = none) (now : Instant) (key : String) :
    (∃ count, (s.execute now (.del key)).1 = .count count) ∧
      (s.execute now (.del key)).2.values now key = [] := by
  unfold execute
  rw [show (Request.del key).name = "DEL" from rfl, hfault]
  dsimp only
  split
  · exact ⟨⟨0, rfl⟩, values_store_none⟩
  · exact ⟨⟨1, rfl⟩, values_store_none⟩

/-- The key that a command changes is the only one whose values it changes. -/
theorem values_execute_ne (h : ∀ key seconds, r ≠ .expire key seconds)
    (hkey : ∀ k value, r = .lpush k value ∨ r = .lrem k value ∨ r = .del k → other ≠ k) :
    (s.execute now r).2.values now other = s.values now other := by
  unfold execute
  split
  · rfl
  · cases r with
    | lrange key => dsimp only; split <;> rfl
    | lpush key value =>
      have hne := hkey key value (Or.inl rfl)
      dsimp only
      split <;> first | exact values_store_ne hne | rfl
    | expire key seconds => exact absurd rfl (h key seconds)
    | lrem key value =>
      have hne := hkey key value (Or.inr (Or.inl rfl))
      dsimp only
      split <;> first | exact values_store_ne hne | rfl
    | del key =>
      have hne := hkey key "" (Or.inr (Or.inr rfl))
      dsimp only
      split <;> exact values_store_ne hne
    | ping => rfl
    | multi => rfl
    | exec => rfl

theorem keys_lrange (now : Instant) (key : String) (s : ListServer) :
    (s.execute now (.lrange key)).2.keys = s.keys := by
  unfold execute
  split
  · rfl
  · dsimp only
    split <;> rfl

/-- Whatever the state, the items of an answer are what is there. -/
theorem values_of_lrange {items : List String}
    (h : (s.execute now (.lrange key)).1 = .values items) : items = s.values now key := by
  unfold execute at h
  unfold values
  split at h
  · cases h
  · dsimp only at h
    split at h
    · rename_i hlive
      cases h
      rw [hlive]
    · rename_i hlive
      cases h
      rw [hlive]
    · cases h

/-- Whatever the state, a value of which no copy was taken out was not there. -/
theorem notMem_of_lrem (h : (s.execute now (.lrem key value)).1 = .count 0) :
    value ∉ s.values now key := by
  unfold execute at h
  unfold values
  split at h
  · cases h
  · dsimp only at h
    split at h
    · rename_i hlive
      rw [hlive]
      exact List.not_mem_nil
    · rename_i items expires hlive
      have hcount : items.length - (items.filter (· != value)).length = 0 := Answer.count.inj h
      rw [hlive]
      intro hmem
      replace hmem : value ∈ items := hmem
      have hlt : (items.filter (· != value)).length < items.length :=
        List.length_filter_lt_length_iff_exists.mpr ⟨value, hmem, by simp⟩
      omega
    · cases h

/-- The server after a command was written down. -/
def noted (s : ListServer) (r : Request) : ListServer :=
  { s with received := s.received ++ [r.words] }

theorem InOrder.noted (h : s.InOrder) : (s.noted r).InOrder := ⟨h.queue, h.lists⟩

/-- A command that has nothing to do with queues is queued, or it is carried out at once. -/
theorem receive_cases (s : ListServer) (now : Instant) (hmulti : r ≠ .multi)
    (hexec : r ≠ .exec) :
    (s.queue ≠ none ∧
        ∃ later, s.receive now r = (.single (.status "QUEUED"), later) ∧ later.keys = s.keys) ∨
      s.queue = none ∧ s.receive now r =
        (.single ((s.noted r).execute now r).1, ((s.noted r).execute now r).2) := by
  obtain ⟨keys, faults, queue, received⟩ := s
  cases r with
  | multi => exact absurd rfl hmulti
  | exec => exact absurd rfl hexec
  | _ =>
    cases queue with
    | some queue => exact Or.inl ⟨by simp, _, rfl, rfl⟩
    | none => exact Or.inr ⟨rfl, rfl⟩

/-- Outside of a queue a command is carried out at once; no queue is begun or ended. -/
theorem receive_at_once (h : s.queue = none) (now : Instant) (hmulti : r ≠ .multi) :
    s.receive now r = (.single ((s.noted r).execute now r).1, ((s.noted r).execute now r).2) := by
  obtain ⟨keys, faults, queue, received⟩ := s
  obtain rfl : queue = none := h
  cases r with
  | multi => exact absurd rfl hmulti
  | _ => rfl

theorem receive_multi_refused {line : String} (h : s.queue = none)
    (hfault : s.faults.get? "MULTI" = some line) :
    s.receive now .multi = (.single (.refused line), s.noted .multi) := by
  obtain ⟨keys, faults, queue, received⟩ := s
  obtain rfl : queue = none := h
  unfold receive
  dsimp only
  rw [show faults.get? Request.multi.name = some line from hfault]
  rfl

end ListServer

namespace Remote

open ListServer

variable {s : ListServer} {now : Instant} {key other value : String} {seconds : Nat}

/-! ### Commands of the cache, in any state of the server -/

/-- Reading a list changes no key. -/
theorem keys_get (now : Instant) (key : String) (s : ListServer) :
    (perform now (.get key) s).2.keys = s.keys := by
  show (s.receive now (.lrange key)).2.keys = s.keys
  rcases s.receive_cases now (r := .lrange key) (by simp) (by simp) with
    ⟨_, later, hreceive, hkeys⟩ | ⟨_, hreceive⟩
  · rw [hreceive]
    exact hkeys
  · rw [hreceive]
    exact keys_lrange _ _ _

/-- The list that is read is what is there. -/
theorem values_of_get {entries : List String} (h : (perform now (.get key) s).1 = .ok entries) :
    entries = s.values now key := by
  have hitems : itemsOf (s.receive now (.lrange key)).1 = .ok entries := h
  rcases s.receive_cases now (r := .lrange key) (by simp) (by simp) with
    ⟨_, later, hreceive, _⟩ | ⟨_, hreceive⟩
  · rw [hreceive] at hitems
    cases hitems
  · rw [hreceive] at hitems
    dsimp only at hitems
    generalize hanswer : ((s.noted (.lrange key)).execute now (.lrange key)).1 = answer at hitems
    cases answer with
    | values items =>
      cases hitems
      exact values_of_lrange (s := s.noted (.lrange key)) hanswer
    | _ => cases hitems

/-- A list is read only where no commands are queued. -/
theorem queue_of_get {entries : List String} (h : (perform now (.get key) s).1 = .ok entries) :
    s.queue = none := by
  have hitems : itemsOf (s.receive now (.lrange key)).1 = .ok entries := h
  rcases s.receive_cases now (r := .lrange key) (by simp) (by simp) with
    ⟨_, later, hreceive, _⟩ | ⟨hqueue, _⟩
  · rw [hreceive] at hitems
    cases hitems
  · exact hqueue

/-- A value that was not taken out was not there. -/
theorem notMem_of_remove (h : (perform now (.remove key value) s).1 = .ok false) :
    value ∉ s.values now key := by
  have hcount : (countOf (s.receive now (.lrem key value)).1).map (fun n => decide (0 < n)) =
    .ok false := h
  rcases s.receive_cases now (r := .lrem key value) (by simp) (by simp) with
    ⟨_, later, hreceive, _⟩ | ⟨_, hreceive⟩
  · rw [hreceive] at hcount
    cases hcount
  · rw [hreceive] at hcount
    dsimp only at hcount
    generalize hanswer : ((s.noted (.lrem key value)).execute now (.lrem key value)).1 = answer
      at hcount
    cases answer with
    | count n =>
      have hzero : decide (0 < n) = false := Except.ok.inj hcount
      obtain rfl : n = 0 := by simpa using hzero
      exact notMem_of_lrem (s := s.noted (.lrem key value)) hanswer
    | _ => cases hcount

theorem fault_of_itemsOf {response : Response} {e : AuthError} (h : itemsOf response = .error e) :
    ∃ fault, e = .cache fault := by
  unfold itemsOf at h
  split at h <;> cases h <;> exact ⟨_, rfl⟩

theorem fault_of_countOf {response : Response} {e : AuthError} (h : countOf response = .error e) :
    ∃ fault, e = .cache fault := by
  unfold countOf at h
  split at h <;> cases h <;> exact ⟨_, rfl⟩

theorem fault_of_forM {answers : List Answer} {e : AuthError}
    (h : answers.forM accepted = .error e) : ∃ fault, e = .cache fault := by
  induction answers with
  | nil => cases h
  | cons answer answers ih =>
    have hfirst : (accepted answer >>= fun _ => answers.forM accepted) = .error e := h
    cases answer with
    | refused line =>
      cases hfirst
      exact ⟨_, rfl⟩
    | _ => exact ih hfirst

theorem fault_of_queueOf {response : Response} {e : AuthError} (h : queueOf response = .error e) :
    ∃ fault, e = .cache fault := by
  unfold queueOf at h
  split at h
  · exact fault_of_forM h
  · cases h
    exact ⟨_, rfl⟩

theorem error_of_map {result : Except AuthError α} {f : α → β} {e : AuthError}
    (h : result.map f = .error e) : result = .error e := by
  cases result with
  | ok value => cases h
  | error e' => exact congrArg Except.error (Except.error.inj h)

/-- With a time to live that can be sent, a push only fails with what the server says. -/
theorem fault_of_push {ttl : Option Nat} {e : AuthError} (hfits : ttl.getD 0 < limit63)
    (h : (perform now (.push key value ttl) s).1 = .error e) : ∃ fault, e = .cache fault := by
  simp only [perform] at h
  rw [if_neg (Nat.not_le.mpr hfits)] at h
  exact fault_of_queueOf h

/-- An error of the cache: a fault, or a time to live that cannot be sent. -/
inductive IsError : AuthError → Prop
  | fault (fault : CacheFault) : IsError (.cache fault)
  | ttl : IsError (.internal "TTL out of range")

theorem IsError.of_fault {e : AuthError} (h : ∃ fault, e = .cache fault) : IsError e := by
  obtain ⟨fault, rfl⟩ := h
  exact .fault fault

/-- Whatever the state, a command of the cache fails with an error of the cache. -/
theorem isError_perform {c : Command} {e : AuthError} (h : (perform now c s).1 = .error e) :
    IsError e := by
  cases c with
  | get key => exact .of_fault (fault_of_itemsOf h)
  | remove key value => exact .of_fault (fault_of_countOf (error_of_map h))
  | delete key => exact .of_fault (fault_of_countOf (error_of_map h))
  | push key value ttl =>
    by_cases hfits : ttl.getD 0 < limit63
    · exact .of_fault (fault_of_push hfits h)
    · simp only [perform] at h
      rw [if_pos (Nat.not_lt.mp hfits)] at h
      cases h
      exact .ttl

/-! ### Commands of the cache, on a server in order -/

/-- A list is read, unless that is refused. -/
theorem get_cases (h : s.InOrder) (now : Instant) (key : String) :
    (s.faults.get? "LRANGE" = none ∧
        (perform now (.get key) s).1 = .ok (s.values now key)) ∨
      s.faults.get? "LRANGE" ≠ none ∧
        ∃ fault, (perform now (.get key) s).1 = .error (.cache fault) := by
  show (_ ∧ itemsOf (s.receive now (.lrange key)).1 = _) ∨ _ ∧ ∃ fault,
    itemsOf (s.receive now (.lrange key)).1 = .error (.cache fault)
  rw [receive_at_once h.queue now (by simp)]
  cases hfault : s.faults.get? "LRANGE" with
  | none =>
    rw [execute_lrange h.noted hfault]
    exact Or.inl ⟨rfl, rfl⟩
  | some line =>
    rw [execute_refused (s := s.noted (.lrange key)) (r := .lrange key) hfault]
    exact Or.inr ⟨by simp, _, rfl⟩

/-- Every copy of a value is taken out, unless that is refused. -/
theorem remove_cases (h : s.InOrder) (now : Instant) (key value : String) :
    (s.faults.get? "LREM" = none ∧
        (perform now (.remove key value) s).1 = .ok (decide (value ∈ s.values now key)) ∧
        (perform now (.remove key value) s).2.values now key =
          (s.values now key).filter (· != value)) ∨
      s.faults.get? "LREM" ≠ none ∧
        (∃ fault, (perform now (.remove key value) s).1 = .error (.cache fault)) ∧
        (perform now (.remove key value) s).2.values now key = s.values now key := by
  have hfst : (perform now (.remove key value) s).1 =
    (countOf (s.receive now (.lrem key value)).1).map fun n => decide (0 < n) := rfl
  have hsnd : (perform now (.remove key value) s).2 = (s.receive now (.lrem key value)).2 := rfl
  rw [hfst, hsnd, receive_at_once h.queue now (by simp)]
  cases hfault : s.faults.get? "LREM" with
  | none =>
    obtain ⟨⟨count, hcount, hpos⟩, hvalues⟩ :=
      execute_lrem (h.noted (r := .lrem key value)) hfault now key value
    refine Or.inl ⟨rfl, ?_, hvalues⟩
    dsimp only
    rw [hcount]
    exact congrArg Except.ok (decide_eq_decide.mpr hpos)
  | some line =>
    rw [execute_refused (s := s.noted (.lrem key value)) (r := .lrem key value) hfault]
    exact Or.inr ⟨by simp, ⟨_, rfl⟩, rfl⟩

/-- A list is dropped, unless that is refused. -/
theorem delete_cases (h : s.InOrder) (now : Instant) (key : String) :
    (s.faults.get? "DEL" = none ∧ (perform now (.delete key) s).1 = .ok () ∧
        (perform now (.delete key) s).2.values now key = []) ∨
      s.faults.get? "DEL" ≠ none ∧
        (∃ fault, (perform now (.delete key) s).1 = .error (.cache fault)) ∧
        (perform now (.delete key) s).2.values now key = s.values now key := by
  have hfst : (perform now (.delete key) s).1 =
    (countOf (s.receive now (.del key)).1).map fun _ => () := rfl
  have hsnd : (perform now (.delete key) s).2 = (s.receive now (.del key)).2 := rfl
  rw [hfst, hsnd, receive_at_once h.queue now (by simp)]
  cases hfault : s.faults.get? "DEL" with
  | none =>
    obtain ⟨⟨count, hcount⟩, hvalues⟩ := execute_del (s := s.noted (.del key)) hfault now key
    refine Or.inl ⟨rfl, ?_, hvalues⟩
    dsimp only
    rw [hcount]
    rfl
  | some line =>
    rw [execute_refused (s := s.noted (.del key)) (r := .del key) hfault]
    exact Or.inr ⟨by simp, ⟨_, rfl⟩, rfl⟩

/-! ### Pushing -/

/-- The server with other commands in its queue. -/
def queueing (s : ListServer) (queue : Option (List Request)) : ListServer :=
  { s with queue := queue }

theorem receive_multi (h : s.queue = none) (hfault : s.faults.get? "MULTI" = none) :
    s.receive now .multi = (.single (.status "OK"), queueing (s.noted .multi) (some [])) := by
  obtain ⟨keys, faults, queue, received⟩ := s
  obtain rfl : queue = none := h
  unfold receive
  dsimp only
  rw [show faults.get? Request.multi.name = none from hfault]
  rfl

theorem receive_queued {queue : List Request} {r : Request} (h : s.queue = some queue)
    (hexec : r ≠ .exec) :
    s.receive now r = (.single (.status "QUEUED"), queueing (s.noted r) (some (r :: queue))) := by
  obtain ⟨keys, faults, _, received⟩ := s
  obtain rfl : _ = some queue := h
  cases r with
  | exec => exact absurd rfl hexec
  | _ => rfl

theorem receive_exec (queue : List Request) (h : s.queue = some queue)
    (hfault : s.faults.get? "EXEC" = none) :
    s.receive now .exec =
      (.queued (executeAll now queue.reverse (queueing (s.noted .exec) none)).1,
        (executeAll now queue.reverse (queueing (s.noted .exec) none)).2) := by
  obtain ⟨keys, faults, _, received⟩ := s
  obtain rfl : _ = some queue := h
  unfold receive
  dsimp only
  rw [show faults.get? Request.exec.name = none from hfault]
  rfl

theorem receive_exec_refused {queue : List Request} {line : String} (h : s.queue = some queue)
    (hfault : s.faults.get? "EXEC" = some line) :
    s.receive now .exec = (.single (.refused line), queueing (s.noted .exec) none) := by
  obtain ⟨keys, faults, _, received⟩ := s
  obtain rfl : _ = some queue := h
  unfold receive
  dsimp only
  rw [show faults.get? Request.exec.name = some line from hfault]
  rfl

/-- The server after it has received the words of a push. -/
def pushed (s : ListServer) (key value : String) (seconds : Nat) : ListServer :=
  queueing ((((s.noted .multi).noted (.lpush key value)).noted (.expire key seconds)).noted .exec)
    none

/-- What a push sends is carried out as a whole, or the queue is refused. -/
theorem send_push (h : s.queue = none) (now : Instant) (key value : String) (seconds : Nat)
    (hmulti : s.faults.get? "MULTI" = none) :
    (∃ line, s.faults.get? "EXEC" = some line ∧
        send now (pushRequests key value (some seconds)) (.queued []) s =
          (.single (.refused line), pushed s key value seconds)) ∨
      s.faults.get? "EXEC" = none ∧
        send now (pushRequests key value (some seconds)) (.queued []) s =
          (.queued (executeAll now [.lpush key value, .expire key seconds]
              (pushed s key value seconds)).1,
            (executeAll now [.lpush key value, .expire key seconds]
              (pushed s key value seconds)).2) := by
  have hsend : send now (pushRequests key value (some seconds)) (.queued []) s =
      ListServer.receive now .exec (ListServer.receive now (.expire key seconds)
        (ListServer.receive now (.lpush key value) (s.receive now .multi).2).2).2 := rfl
  rw [hsend, receive_multi h hmulti, receive_queued (r := .lpush key value) rfl (by simp),
    receive_queued (r := .expire key seconds) rfl (by simp)]
  cases hexec : s.faults.get? "EXEC" with
  | some line => exact Or.inl ⟨line, rfl, receive_exec_refused rfl hexec⟩
  | none => exact Or.inr ⟨rfl, receive_exec [.expire key seconds, .lpush key value] rfl hexec⟩

/-- The two commands of a push, one after the other. -/
theorem executeAll_push (now : Instant) (key value : String) (seconds : Nat) (s : ListServer) :
    executeAll now [.lpush key value, .expire key seconds] s =
      ([(s.execute now (.lpush key value)).1,
          ((s.execute now (.lpush key value)).2.execute now (.expire key seconds)).1],
        ((s.execute now (.lpush key value)).2.execute now (.expire key seconds)).2) := rfl

/--
A value is put in front, unless a part of that is refused: then the value is in front all
the same if it was only the time to live that was refused.
-/
theorem push_cases (h : s.InOrder) (now : Instant) (key value : String) {seconds : Nat}
    (hmulti : s.faults.get? "MULTI" = none) (hpos : 1 ≤ seconds) (hlong : seconds ≤ longestTtl) :
    ((perform now (.push key value (some seconds)) s).1 = .ok () ∧
        s.faults.get? "LPUSH" = none ∧
        (perform now (.push key value (some seconds)) s).2.values now key =
          value :: s.values now key) ∨
      (∃ fault, (perform now (.push key value (some seconds)) s).1 = .error (.cache fault)) ∧
        ((s.faults.get? "LPUSH" ≠ none ∨ s.faults.get? "EXEC" ≠ none) ∧
            (perform now (.push key value (some seconds)) s).2.values now key = s.values now key ∨
          s.faults.get? "EXPIRE" ≠ none ∧
            (perform now (.push key value (some seconds)) s).2.values now key =
              value :: s.values now key) := by
  have hinRange : ¬ (some seconds).getD 0 ≥ limit63 := by
    have hlimit : longestTtl < limit63 := by decide
    exact Nat.not_le.mpr (Nat.lt_of_le_of_lt hlong hlimit)
  have hperform : perform now (.push key value (some seconds)) s =
      (queueOf (send now (pushRequests key value (some seconds)) (.queued []) s).1,
        (send now (pushRequests key value (some seconds)) (.queued []) s).2) := if_neg hinRange
  have hpushed : (pushed s key value seconds).InOrder := ⟨rfl, h.lists⟩
  rw [hperform]
  rcases send_push h.queue now key value seconds hmulti with ⟨line, hexec, hsend⟩ | ⟨hexec, hsend⟩
  · rw [hsend]
    exact Or.inr ⟨⟨_, rfl⟩, Or.inl ⟨Or.inr (by simp [hexec]), rfl⟩⟩
  · rw [hsend, executeAll_push]
    cases hlpush : s.faults.get? "LPUSH" with
    | some line =>
      rw [execute_refused (s := pushed s key value seconds) (r := .lpush key value) hlpush]
      exact Or.inr ⟨⟨_, rfl⟩, Or.inl ⟨Or.inl (by simp), values_expire hpos⟩⟩
    | none =>
      obtain ⟨count, hcount, hvalues⟩ := execute_lpush hpushed hlpush now key value
      rw [hcount]
      have hlast : (((pushed s key value seconds).execute now (.lpush key value)).2.execute now
          (.expire key seconds)).2.values now key = value :: s.values now key :=
        (values_expire hpos).trans hvalues
      have hfaults := faults_execute now (.lpush key value) (pushed s key value seconds)
      cases hexpire : s.faults.get? "EXPIRE" with
      | some line =>
        have hrefused :
            ((pushed s key value seconds).execute now (.lpush key value)).2.faults.get? "EXPIRE" =
              some line := by
          rw [hfaults]
          exact hexpire
        refine Or.inr ⟨?_, Or.inr ⟨by simp, hlast⟩⟩
        rw [execute_refused (r := .expire key seconds) hrefused]
        exact ⟨_, rfl⟩
      | none =>
        have hallowed :
            ((pushed s key value seconds).execute now (.lpush key value)).2.faults.get? "EXPIRE" =
              none := by
          rw [hfaults]
          exact hexpire
        obtain ⟨answer, hanswer⟩ := execute_expire hallowed hlong now key
        refine Or.inl ⟨?_, rfl, hlast⟩
        rw [hanswer]
        rfl

/-! ### What a command is not about -/

/-- A push leaves a server in order, and other keys alone. -/
theorem push_spares (h : s.InOrder) (now : Instant) (key value : String) {seconds : Nat}
    (hmulti : s.faults.get? "MULTI" = none) (hpos : 1 ≤ seconds) :
    (perform now (.push key value (some seconds)) s).2.InOrder ∧ ∀ other ≠ key,
      (perform now (.push key value (some seconds)) s).2.values now other = s.values now other := by
  simp only [perform]
  split
  · exact ⟨h, fun _ _ => rfl⟩
  · have hpushed : (pushed s key value seconds).InOrder := ⟨rfl, h.lists⟩
    rcases send_push h.queue now key value seconds hmulti with ⟨line, _, hsend⟩ | ⟨_, hsend⟩
    · rw [hsend]
      exact ⟨hpushed, fun _ _ => rfl⟩
    · rw [hsend, executeAll_push]
      refine ⟨(hpushed.execute now _).execute now _, ?_⟩
      intro other hother
      refine (values_expire hpos).trans (values_execute_ne (by simp) ?_)
      intro k v hk
      rcases hk with hk | hk | hk <;> cases hk
      exact hother

/-- **A command of the cache leaves a server in order, and other keys alone.** -/
theorem perform_spares (h : s.InOrder) (now : Instant) (c : Command)
    (hmulti : s.faults.get? "MULTI" = none)
    (hpush : ∀ key value ttl, c = .push key value ttl →
      ∃ seconds, ttl = some seconds ∧ 1 ≤ seconds) :
    (perform now c s).2.InOrder ∧
      ∀ other ≠ c.key, (perform now c s).2.values now other = s.values now other := by
  have hplain : ∀ {r : Request}, r ≠ .multi → r ≠ .exec → (∀ key seconds, r ≠ .expire key seconds) →
      (∀ k v, r = .lpush k v ∨ r = .lrem k v ∨ r = .del k → k = c.key) →
      (s.receive now r).2.InOrder ∧
        ∀ other ≠ c.key, (s.receive now r).2.values now other = s.values now other := by
    intro r hm he hexpire hkey
    rw [receive_at_once h.queue now hm]
    refine ⟨h.noted.execute now r, ?_⟩
    intro other hother
    exact values_execute_ne (s := s.noted r) hexpire fun k v hk => hkey k v hk ▸ hother
  cases c with
  | get key => exact hplain (by simp) (by simp) (by simp) (by simp)
  | remove key value =>
    refine hplain (r := .lrem key value) (by simp) (by simp) (by simp) ?_
    intro k v hk
    rcases hk with hk | hk | hk <;> cases hk
    rfl
  | delete key =>
    refine hplain (r := .del key) (by simp) (by simp) (by simp) ?_
    intro k v hk
    rcases hk with hk | hk | hk <;> cases hk
    rfl
  | push key value ttl =>
    obtain ⟨seconds, rfl, hpos⟩ := hpush key value ttl rfl
    exact push_spares h now key value hmulti hpos

end Remote

end SessionAuth.Cache
