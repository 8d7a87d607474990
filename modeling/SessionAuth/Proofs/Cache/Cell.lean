/-
A command works in one cell.

What is stored at a key is a cell of the cache.  A command reads and changes the cell of its
key and no other one: in two caches that have this cell in common it replies the same and
leaves the same there (`perform_cell`), and in every cache it leaves the other cells as they
are (`get?_perform_ne`).  That is so whatever the server refuses, also if the queue cannot be
opened and its commands are carried out one by one.

A server must have nothing queued when a command arrives, since the queue of somebody else
could be about any key; it has nothing queued afterwards either.
-/
import SessionAuth.Proofs.Cache.Remote

namespace SessionAuth.Cache

variable {now : Instant} {key other : String}

/-! ### In memory -/

namespace Memory

variable {m m' : Memory}

theorem live?_congr (h : m'.lists.get? key = m.lists.get? key) :
    m'.live? now key = m.live? now key := by
  unfold live?
  rw [h]

/-- A command depends on the cell of its key, and so does what it leaves there. -/
theorem perform_cell {c : Command} (h : m'.lists.get? c.key = m.lists.get? c.key) :
    (perform now c m').1 = (perform now c m).1 ∧
      (perform now c m').2.lists.get? c.key = (perform now c m).2.lists.get? c.key := by
  have hlive : m'.live? now c.key = m.live? now c.key := live?_congr h
  cases c with
  | get k =>
    refine ⟨?_, h⟩
    show Except.ok (m'.values now k) = .ok (m.values now k)
    unfold values
    rw [show m'.live? now k = m.live? now k from hlive]
  | push k value ttl =>
    refine ⟨rfl, ?_⟩
    show (m'.push now k value ttl).lists.get? k = (m.push now k value ttl).lists.get? k
    unfold push
    rw [show m'.live? now k = m.live? now k from hlive]
    simp only [Table.get?_insert, if_true]
  | remove k value =>
    have hremove : (m'.remove now k value).1 = (m.remove now k value).1 ∧
        (m'.remove now k value).2.lists.get? k = (m.remove now k value).2.lists.get? k := by
      unfold remove
      rw [show m'.live? now k = m.live? now k from hlive]
      cases m.live? now k with
      | none => simp
      | some held =>
        dsimp only
        refine ⟨rfl, ?_⟩
        split <;> simp
    exact ⟨congrArg Except.ok hremove.1, hremove.2⟩
  | delete k =>
    refine ⟨rfl, ?_⟩
    show (m'.lists.erase k).get? k = (m.lists.erase k).get? k
    simp only [Table.get?_erase, if_true]

end Memory

/-! ### On a server -/

/-- The key that a command is about, if it is about one. -/
def Request.key? : Request → Option String
  | lrange key | lpush key _ | expire key _ | lrem key _ | del key => some key
  | multi | exec | ping => none

/-- The command is about this key, or about none. -/
def Request.IsOf (key : String) (r : Request) : Prop := ∀ k, r.key? = some k → k = key

namespace ListServer

variable {s s' s'' : ListServer} {r : Request}

/-- Two servers that refuse the same, have the same queued and have a cell in common. -/
structure Shares (key : String) (s s' : ListServer) : Prop where
  cell : s'.keys.get? key = s.keys.get? key
  faults : s'.faults = s.faults
  queue : s'.queue = s.queue

/-- A server on which at most one cell has changed. -/
structure Spared (key : String) (s s' : ListServer) : Prop where
  elsewhere : ∀ other ≠ key, s'.keys.get? other = s.keys.get? other
  faults : s'.faults = s.faults

theorem Spared.refl (key : String) (s : ListServer) : Spared key s s := ⟨fun _ _ => rfl, rfl⟩

theorem Spared.trans (h : Spared key s s') (h' : Spared key s' s'') : Spared key s s'' :=
  ⟨fun other hother => (h'.elsewhere other hother).trans (h.elsewhere other hother),
    h'.faults.trans h.faults⟩

theorem Shares.live? (h : Shares key s s') : s'.live? now key = s.live? now key := by
  unfold ListServer.live?
  rw [h.cell]

theorem Shares.store (h : Shares key s s') (stored : Option Stored) :
    Shares key (s.store key stored) (s'.store key stored) := by
  refine ⟨?_, h.faults, h.queue⟩
  unfold ListServer.store
  simp only [Table.get?_put, if_true]

theorem spared_store (stored : Option Stored) : Spared key s (s.store key stored) :=
  ⟨fun _ hother => if_neg hother, rfl⟩

/-! One command. -/

/-- What is carried out on two servers that have its cell in common. -/
def SameOn {α : Type} (key : String) (a b : α × ListServer) : Prop := b.1 = a.1 ∧ Shares key a.2 b.2

theorem execute_shares (now : Instant) (h : Shares key s s') (hr : r.IsOf key) :
    SameOn key (s.execute now r) (s'.execute now r) := by
  unfold ListServer.execute
  rw [h.faults]
  cases s.faults.get? r.name with
  | some line => exact ⟨rfl, h⟩
  | none =>
    cases r with
    | lrange k =>
      obtain rfl : k = key := hr k rfl
      dsimp only
      rw [h.live?]
      split <;> exact ⟨rfl, h⟩
    | lpush k value =>
      obtain rfl : k = key := hr k rfl
      dsimp only
      rw [h.live?]
      split <;> first | exact ⟨rfl, h.store _⟩ | exact ⟨rfl, h⟩
    | expire k seconds =>
      obtain rfl : k = key := hr k rfl
      dsimp only
      rw [h.live?]
      split
      · exact ⟨rfl, h⟩
      · split
        · exact ⟨rfl, h⟩
        · split <;> exact ⟨rfl, h.store _⟩
    | lrem k value =>
      obtain rfl : k = key := hr k rfl
      dsimp only
      rw [h.live?]
      split <;> first | exact ⟨rfl, h.store _⟩ | exact ⟨rfl, h⟩
    | del k =>
      obtain rfl : k = key := hr k rfl
      dsimp only
      rw [h.live?]
      split <;> exact ⟨rfl, h.store _⟩
    | ping => exact ⟨rfl, h⟩
    | multi => exact ⟨rfl, h⟩
    | exec => exact ⟨rfl, h⟩

/-- A command that is carried out queues nothing. -/
theorem queue_execute (now : Instant) (r : Request) (s : ListServer) :
    (s.execute now r).2.queue = s.queue := by
  unfold execute
  split
  · rfl
  · cases r <;> dsimp only <;> repeat' split
    all_goals rfl

theorem execute_spared (now : Instant) (s : ListServer) (hr : r.IsOf key) :
    Spared key s (s.execute now r).2 := by
  unfold ListServer.execute
  cases s.faults.get? r.name with
  | some line => exact .refl key s
  | none =>
    cases r with
    | lrange k => dsimp only; split <;> exact .refl key s
    | lpush k value =>
      obtain rfl : k = key := hr k rfl
      dsimp only
      split <;> first | exact spared_store _ | exact .refl k s
    | expire k seconds =>
      obtain rfl : k = key := hr k rfl
      dsimp only
      split
      · exact .refl k s
      · split
        · exact .refl k s
        · split <;> exact spared_store _
    | lrem k value =>
      obtain rfl : k = key := hr k rfl
      dsimp only
      split <;> first | exact spared_store _ | exact .refl k s
    | del k =>
      obtain rfl : k = key := hr k rfl
      dsimp only
      split <;> exact spared_store _
    | ping => exact .refl key s
    | multi => exact .refl key s
    | exec => exact .refl key s

/-! Commands from the queue. -/

theorem executeAll_shares {queue : List Request} (now : Instant) (h : Shares key s s')
    (hqueue : ∀ r ∈ queue, r.IsOf key) :
    SameOn key (executeAll now queue s) (executeAll now queue s') := by
  induction queue generalizing s s' with
  | nil => exact ⟨rfl, h⟩
  | cons r queue ih =>
    obtain ⟨hanswer, hafter⟩ := execute_shares now h (hqueue r List.mem_cons_self)
    obtain ⟨hanswers, hlast⟩ := ih hafter fun r hr => hqueue r (List.mem_cons_of_mem _ hr)
    refine ⟨?_, hlast⟩
    show (s'.execute now r).1 :: (executeAll now queue (s'.execute now r).2).1 =
      (s.execute now r).1 :: (executeAll now queue (s.execute now r).2).1
    rw [hanswer, hanswers]

theorem executeAll_spared {queue : List Request} (now : Instant) (s : ListServer)
    (hqueue : ∀ r ∈ queue, r.IsOf key) : Spared key s (executeAll now queue s).2 := by
  induction queue generalizing s with
  | nil => exact .refl key s
  | cons r queue ih =>
    exact (execute_spared now s (hqueue r List.mem_cons_self)).trans
      (ih _ fun r hr => hqueue r (List.mem_cons_of_mem _ hr))

theorem queue_executeAll (now : Instant) (queue : List Request) (s : ListServer) :
    (executeAll now queue s).2.queue = s.queue := by
  induction queue generalizing s with
  | nil => rfl
  | cons r queue ih => exact (ih _).trans (queue_execute now r s)

/-! Commands as they arrive. -/

/-- Everything that is queued is about this key. -/
def QueueOf (key : String) (s : ListServer) : Prop :=
  ∀ queue, s.queue = some queue → ∀ r ∈ queue, r.IsOf key

theorem queueOf_of_none (h : s.queue = none) : QueueOf key s := by
  intro queue hqueue
  rw [h] at hqueue
  cases hqueue

theorem Shares.noted (h : Shares key s s') (r : Request) : Shares key (s.noted r) (s'.noted r) :=
  ⟨h.cell, h.faults, h.queue⟩

/-- A command that arrives at two servers alike. -/
theorem receive_shares (now : Instant) (h : Shares key s s') (hr : r.IsOf key)
    (hqueue : QueueOf key s) : SameOn key (s.receive now r) (s'.receive now r) := by
  obtain ⟨keys, faults, queue, received⟩ := s
  obtain ⟨keys', faults', queue', received'⟩ := s'
  obtain ⟨hcell, hfaults, hsame⟩ := h
  obtain rfl : faults' = faults := hfaults
  obtain rfl : queue' = queue := hsame
  have hnoted : ∀ queue, Shares key ⟨keys, faults', queue, received ++ [r.words]⟩
      ⟨keys', faults', queue, received' ++ [r.words]⟩ := fun queue => ⟨hcell, rfl, rfl⟩
  unfold receive
  cases queue' with
  | none =>
    cases r with
    | multi =>
      dsimp only
      cases faults'.get? Request.multi.name with
      | some line => exact ⟨rfl, hnoted none⟩
      | none => exact ⟨rfl, hnoted (some [])⟩
    | _ =>
      obtain ⟨hanswer, hafter⟩ := execute_shares now (hnoted none) hr
      exact ⟨congrArg Response.single hanswer, hafter⟩
  | some queued =>
    cases r with
    | exec =>
      dsimp only
      cases faults'.get? Request.exec.name with
      | some line => exact ⟨rfl, hnoted none⟩
      | none =>
        obtain ⟨hanswers, hafter⟩ := executeAll_shares now (hnoted none)
          fun r hr => hqueue queued rfl r (List.mem_reverse.mp hr)
        exact ⟨congrArg Response.queued hanswers, hafter⟩
    | _ => exact ⟨rfl, hnoted _⟩

/-- A command that arrives changes its cell only, and what is queued then is about it. -/
theorem receive_spared (now : Instant) (hr : r.IsOf key) (hqueue : QueueOf key s) :
    Spared key s (s.receive now r).2 ∧ QueueOf key (s.receive now r).2 := by
  obtain ⟨keys, faults, queue, received⟩ := s
  have hsame : ∀ queue', Spared key ⟨keys, faults, queue, received⟩
      ⟨keys, faults, queue', received ++ [r.words]⟩ := fun queue' => ⟨fun _ _ => rfl, rfl⟩
  unfold receive
  cases queue with
  | none =>
    cases r with
    | multi =>
      dsimp only
      cases faults.get? Request.multi.name with
      | some line => exact ⟨hsame none, queueOf_of_none rfl⟩
      | none =>
        refine ⟨hsame (some []), ?_⟩
        intro queue' hqueue' r hr
        cases hqueue'
        cases hr
    | _ =>
      exact ⟨(hsame none).trans (execute_spared now _ hr),
        queueOf_of_none (queue_execute now _ _)⟩
  | some queued =>
    cases r with
    | exec =>
      dsimp only
      cases faults.get? Request.exec.name with
      | some line => exact ⟨hsame none, queueOf_of_none rfl⟩
      | none =>
        exact ⟨(hsame none).trans (executeAll_spared now _
            fun r hr => hqueue queued rfl r (List.mem_reverse.mp hr)),
          queueOf_of_none (queue_executeAll now _ _)⟩
    | _ =>
      refine ⟨hsame _, ?_⟩
      intro queue' hqueue' r' hr'
      cases hqueue'
      rcases List.mem_cons.mp hr' with rfl | hold
      · exact hr
      · exact hqueue queued rfl r' hold

/-- Nothing is queued after `EXEC`. -/
theorem queue_receive_exec (now : Instant) (s : ListServer) :
    (s.receive now .exec).2.queue = none := by
  obtain ⟨keys, faults, queue, received⟩ := s
  unfold receive
  cases queue with
  | none => exact queue_execute now _ _
  | some queued =>
    dsimp only
    cases faults.get? Request.exec.name with
    | some line => rfl
    | none => exact queue_executeAll now _ _

/-- A single command is not queued if there is no queue. -/
theorem queue_receive (h : s.queue = none) (now : Instant) (hmulti : r ≠ .multi) :
    (s.receive now r).2.queue = none := by
  obtain ⟨keys, faults, queue, received⟩ := s
  obtain rfl : queue = none := h
  cases r with
  | multi => exact absurd rfl hmulti
  | _ => exact queue_execute now _ _

end ListServer

namespace Remote

open ListServer

variable {s s' : ListServer} {c : Command} {requests : List Request}

theorem send_shares (now : Instant) (last : Response) (h : Shares key s s') (hqueue : QueueOf key s)
    (hrequests : ∀ r ∈ requests, r.IsOf key) :
    SameOn key (send now requests last s) (send now requests last s') := by
  induction requests generalizing s s' last with
  | nil => exact ⟨rfl, h⟩
  | cons r more ih =>
    have hr := hrequests r List.mem_cons_self
    obtain ⟨hresponse, hafter⟩ := receive_shares now h hr hqueue
    show SameOn key (send now more (s.receive now r).1 _) (send now more (s'.receive now r).1 _)
    rw [hresponse]
    exact ih _ hafter (receive_spared now hr hqueue).2
      fun r hr => hrequests r (List.mem_cons_of_mem _ hr)

theorem send_spared {last : Response} (hqueue : QueueOf key s)
    (hrequests : ∀ r ∈ requests, r.IsOf key) : Spared key s (send now requests last s).2 := by
  induction requests generalizing s last with
  | nil => exact .refl key s
  | cons r more ih =>
    obtain ⟨hspared, hqueue'⟩ := receive_spared now (hrequests r List.mem_cons_self) hqueue
    exact hspared.trans (ih hqueue' fun r hr => hrequests r (List.mem_cons_of_mem _ hr))

/-- What a push sends is about its key. -/
theorem isOf_pushRequests (key value : String) (ttl : Option Nat) :
    ∀ r ∈ pushRequests key value ttl, r.IsOf key := by
  intro r hr k hk
  simp only [pushRequests, List.mem_append, List.mem_cons, List.not_mem_nil, or_false,
    Option.mem_toList, Option.map_eq_some_iff] at hr
  rcases hr with ((rfl | rfl) | ⟨seconds, _, rfl⟩) | rfl
  · cases hk
  · exact (Option.some.inj hk).symm
  · exact (Option.some.inj hk).symm
  · cases hk

/-- After a push nothing is queued. -/
theorem queue_send_push (now : Instant) (key value : String) (ttl : Option Nat) (last : Response)
    (s : ListServer) : (send now (pushRequests key value ttl) last s).2.queue = none := by
  cases ttl <;> exact queue_receive_exec now _

/-- A command depends on the cell of its key, and so does what it leaves there. -/
theorem perform_cell (h : Shares c.key s s') (hnone : s.queue = none) :
    SameOn c.key (perform now c s) (perform now c s') := by
  have hqueue : ∀ key, QueueOf key s := fun key => queueOf_of_none hnone
  cases c with
  | get k =>
    obtain ⟨hresponse, hafter⟩ := receive_shares now (r := .lrange k) h
      (fun _ hk => (Option.some.inj hk).symm) (hqueue _)
    exact ⟨congrArg itemsOf hresponse, hafter⟩
  | remove k value =>
    obtain ⟨hresponse, hafter⟩ := receive_shares now (r := .lrem k value) h
      (fun _ hk => (Option.some.inj hk).symm) (hqueue _)
    exact ⟨congrArg (fun r => (countOf r).map fun n => decide (0 < n)) hresponse, hafter⟩
  | delete k =>
    obtain ⟨hresponse, hafter⟩ := receive_shares now (r := .del k) h
      (fun _ hk => (Option.some.inj hk).symm) (hqueue _)
    exact ⟨congrArg (fun r => (countOf r).map fun _ => ()) hresponse, hafter⟩
  | push k value ttl =>
    obtain ⟨hresponse, hafter⟩ := send_shares now (.queued []) h (hqueue _)
      (isOf_pushRequests k value ttl)
    simp only [perform]
    split
    · exact ⟨rfl, h⟩
    · exact ⟨congrArg queueOf hresponse, hafter⟩

/-- **A command changes the cell of its key only, and leaves nothing queued.** -/
theorem perform_spared (now : Instant) (c : Command) (hnone : s.queue = none) :
    Spared c.key s (perform now c s).2 ∧ (perform now c s).2.queue = none := by
  have hqueue : ∀ key, QueueOf key s := fun key => queueOf_of_none hnone
  cases c with
  | get k =>
    exact ⟨(receive_spared (r := .lrange k) now (fun _ hk => (Option.some.inj hk).symm)
        (hqueue k)).1,
      queue_receive (r := .lrange k) hnone now (by simp)⟩
  | remove k value =>
    exact ⟨(receive_spared (r := .lrem k value) now (fun _ hk => (Option.some.inj hk).symm)
        (hqueue k)).1,
      queue_receive (r := .lrem k value) hnone now (by simp)⟩
  | delete k =>
    exact ⟨(receive_spared (r := .del k) now (fun _ hk => (Option.some.inj hk).symm)
        (hqueue k)).1,
      queue_receive (r := .del k) hnone now (by simp)⟩
  | push k value ttl =>
    simp only [perform]
    split
    · exact ⟨.refl k s, hnone⟩
    · exact ⟨send_spared (hqueue k) (isOf_pushRequests k value ttl),
        queue_send_push now k value ttl _ s⟩

end Remote

end SessionAuth.Cache
