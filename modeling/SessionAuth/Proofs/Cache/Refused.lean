/-
Pushes of which a part is refused.

A push is two steps in a queue, and a server has no way back: what it has done of a queue when
a step is refused stays done, and what comes after the refused step is done as well.  So a push
that failed has left behind exactly the steps that were not refused (`push_leaves`), unless it
came to none of them, because its time to live could not be sent or its queue was not carried
out.  When no queue could be opened the steps are taken for commands of their own, and are
carried out although the push fails for certain.

All this is said about what is stored at the key of a push, list or not, with any time to live.
-/
import SessionAuth.Proofs.Cache.Content
import SessionAuth.Proofs.Cache.Pushed

namespace SessionAuth.Cache

/-! ### The two steps at one key -/

namespace Stored

/-- What is stored with a value in front of it: a new list where there is nothing. -/
def inFront (value : String) : Option Stored → Option Stored
  | none => some ⟨.list [value], none⟩
  | some ⟨.list values, expires⟩ => some ⟨.list (value :: values), expires⟩
  | some ⟨.text, expires⟩ => some ⟨.text, expires⟩

/-- What is stored when it is given a time to live, if one is given: of no time nothing is left. -/
def lasting (now : Instant) : Option Nat → Option Stored → Option Stored
  | none, stored => stored
  | some seconds, stored =>
    if seconds = 0 then none
    else stored.map fun stored => { stored with expires := some (after now seconds) }

end Stored

open Stored

namespace ListServer

variable {s s' s'' : ListServer} {now : Instant} {key value : String} {ttl : Option Nat}
variable {seconds : Nat}

/-- The server refuses to put a value in front: it was told to, or there is something else. -/
def RefusesValue (s : ListServer) (now : Instant) (key : String) : Prop :=
  s.faults.get? "LPUSH" ≠ none ∨ ∃ expires, s.live? now key = some ⟨.text, expires⟩

/-- The server refuses the time to live that is given: it was told to, or it is too long. -/
def RefusesTtl (s : ListServer) (ttl : Option Nat) : Prop :=
  ∃ seconds, ttl = some seconds ∧ (s.faults.get? "EXPIRE" ≠ none ∨ longestTtl < seconds)

/-- A value is put in front, or that is refused. -/
theorem lpush_cases (s : ListServer) (now : Instant) (key value : String) :
    (s.RefusesValue now key ∧
        (∃ line, (s.execute now (.lpush key value)).1 = .refused line) ∧
        (s.execute now (.lpush key value)).2.live? now key = s.live? now key) ∨
      ¬ s.RefusesValue now key ∧
        (∃ count, (s.execute now (.lpush key value)).1 = .count count) ∧
        (s.execute now (.lpush key value)).2.live? now key = inFront value (s.live? now key) := by
  unfold RefusesValue
  cases hfault : s.faults.get? "LPUSH" with
  | some line =>
    rw [execute_refused (r := .lpush key value) hfault]
    exact Or.inl ⟨Or.inl (by simp), ⟨line, rfl⟩, rfl⟩
  | none =>
    unfold execute
    rw [show (Request.lpush key value).name = "LPUSH" from rfl, hfault]
    rcases hlive : s.live? now key with _ | ⟨values | _, expires⟩
    · simp only [hlive]
      exact Or.inr ⟨by simp, ⟨1, rfl⟩, live?_store_self⟩
    · simp only [hlive]
      refine Or.inr ⟨by simp, ⟨values.length + 1, rfl⟩, ?_⟩
      rw [live?_store_self, Option.filter_some, if_pos (isLive_of_live? hlive [])]
      rfl
    · simp only [hlive]
      exact Or.inl ⟨Or.inr ⟨expires, rfl⟩, ⟨_, rfl⟩, trivial⟩

/-- What is there is given some time, or that is refused. -/
theorem expire_cases (s : ListServer) (now : Instant) (key : String) (seconds : Nat) :
    (s.RefusesTtl (some seconds) ∧
        (∃ line, (s.execute now (.expire key seconds)).1 = .refused line) ∧
        (s.execute now (.expire key seconds)).2.live? now key = s.live? now key) ∨
      ¬ s.RefusesTtl (some seconds) ∧
        (∃ count, (s.execute now (.expire key seconds)).1 = .count count) ∧
        (s.execute now (.expire key seconds)).2.live? now key =
          lasting now (some seconds) (s.live? now key) := by
  cases hfault : s.faults.get? "EXPIRE" with
  | some line =>
    rw [execute_refused (r := .expire key seconds) hfault]
    exact Or.inl ⟨⟨seconds, rfl, Or.inl (by simp [hfault])⟩, ⟨line, rfl⟩, rfl⟩
  | none =>
    unfold execute
    rw [show (Request.expire key seconds).name = "EXPIRE" from rfl, hfault]
    dsimp only
    by_cases hlong : longestTtl < seconds
    · rw [if_pos (by omega)]
      exact Or.inl ⟨⟨seconds, rfl, Or.inr hlong⟩, ⟨_, rfl⟩, rfl⟩
    · rw [if_neg (by omega)]
      refine Or.inr ⟨?_, ?_⟩
      · rintro ⟨_, hsome, htold | hlonger⟩
        · exact htold hfault
        · exact hlong (Option.some.inj hsome ▸ hlonger)
      · unfold lasting
        rcases hlive : s.live? now key with _ | stored
        · simp only [hlive]
          exact ⟨⟨0, rfl⟩, by simp⟩
        · dsimp only
          by_cases hzero : seconds = 0
          · rw [if_pos (by omega), if_pos hzero]
            exact ⟨⟨1, rfl⟩, live?_store_self⟩
          · rw [if_neg (by omega), if_neg hzero]
            refine ⟨⟨1, rfl⟩, ?_⟩
            rw [live?_store_self, Int.toNat_natCast, Option.filter_some,
              if_pos (Held.isLive_after (by omega))]
            rfl

/-! ### Both steps -/

/--
What the steps of a push leave of what is stored at its key: each of them does its part, the
other one being refused or not.
-/
structure Leaves (s : ListServer) (now : Instant) (key value : String) (ttl : Option Nat)
    (left : Option Stored) : Prop where
  ofNeither : s.RefusesValue now key → s.RefusesTtl ttl → left = s.live? now key
  ofTtl : s.RefusesValue now key → ¬ s.RefusesTtl ttl →
    left = lasting now ttl (s.live? now key)
  ofValue : ¬ s.RefusesValue now key → s.RefusesTtl ttl →
    left = inFront value (s.live? now key)
  ofBoth : ¬ s.RefusesValue now key → ¬ s.RefusesTtl ttl →
    left = lasting now ttl (inFront value (s.live? now key))

theorem not_refusesTtl_none (s : ListServer) : ¬ s.RefusesTtl none := by
  rintro ⟨_, hnone, _⟩
  cases hnone

/-- Putting a value in front does not change whether a time to live is refused. -/
theorem refusesTtl_execute (now : Instant) (r : Request) (s : ListServer) (ttl : Option Nat) :
    (s.execute now r).2.RefusesTtl ttl ↔ s.RefusesTtl ttl := by
  unfold RefusesTtl
  rw [faults_execute]

/-- Carried out one after the other, the steps leave what each of them does. -/
theorem leaves_executeAll (s : ListServer) (now : Instant) (key value : String)
    (ttl : Option Nat) : s.Leaves now key value ttl
      ((executeAll now (Remote.pushSteps key value ttl) s).2.live? now key) := by
  cases ttl with
  | none =>
    have hnone := s.not_refusesTtl_none
    show s.Leaves now key value none ((s.execute now (.lpush key value)).2.live? now key)
    rcases s.lpush_cases now key value with ⟨hvalue, _, hlive⟩ | ⟨hvalue, _, hlive⟩
    · exact ⟨fun _ h => absurd h hnone, fun _ _ => hlive, fun h => absurd hvalue h,
        fun h => absurd hvalue h⟩
    · exact ⟨fun h => absurd h hvalue, fun h => absurd h hvalue, fun _ h => absurd h hnone,
        fun _ _ => hlive⟩
  | some seconds =>
    show s.Leaves now key value (some seconds) (((s.execute now (.lpush key value)).2.execute now
      (.expire key seconds)).2.live? now key)
    have hexpire := (s.execute now (.lpush key value)).2.expire_cases now key seconds
    rw [refusesTtl_execute] at hexpire
    rcases s.lpush_cases now key value with ⟨hvalue, _, hlive⟩ | ⟨hvalue, _, hlive⟩
    · rw [hlive] at hexpire
      rcases hexpire with ⟨httl, _, hlive'⟩ | ⟨httl, _, hlive'⟩
      · exact ⟨fun _ _ => hlive', fun _ h => absurd httl h, fun h => absurd hvalue h,
          fun h => absurd hvalue h⟩
      · exact ⟨fun _ h => absurd h httl, fun _ _ => hlive', fun h => absurd hvalue h,
          fun h => absurd hvalue h⟩
    · rw [hlive] at hexpire
      rcases hexpire with ⟨httl, _, hlive'⟩ | ⟨httl, _, hlive'⟩
      · exact ⟨fun h => absurd h hvalue, fun h => absurd h hvalue, fun _ _ => hlive',
          fun _ h => absurd httl h⟩
      · exact ⟨fun h => absurd h hvalue, fun h => absurd h hvalue, fun _ h => absurd h httl,
          fun _ _ => hlive'⟩

/-! ### How the steps arrive -/

theorem Shares.trans (h : Shares key s s') (h' : Shares key s' s'') : Shares key s s'' :=
  ⟨h'.cell.trans h.cell, h'.faults.trans h.faults, h'.queue.trans h.queue⟩

theorem shares_noted (s : ListServer) (key : String) (r : Request) : Shares key s (s.noted r) :=
  ⟨rfl, rfl, rfl⟩

/-- To end a queue that was not opened changes nothing and is refused. -/
theorem execute_exec (s : ListServer) (now : Instant) :
    ∃ line, s.execute now .exec = (.refused line, s) := by
  unfold execute
  split
  · exact ⟨_, rfl⟩
  · exact ⟨_, rfl⟩

end ListServer

namespace Remote

open ListServer

variable {s : ListServer} {now : Instant} {key value : String} {ttl : Option Nat}
variable {steps : List Request}

/-- What is sent while commands are queued is queued after them until the queue is ended. -/
theorem send_queued (hsteps : ∀ r ∈ steps, r ≠ .exec) (now : Instant) (last : Response)
    {queue : List Request} (hqueue : s.queue = some queue) :
    ∃ later : ListServer, later.keys = s.keys ∧ later.faults = s.faults ∧
      later.queue = some (steps.reverse ++ queue) ∧
      send now (steps ++ [.exec]) last s = later.receive now .exec := by
  induction steps generalizing s queue last with
  | nil => exact ⟨s, rfl, rfl, hqueue, rfl⟩
  | cons r more ih =>
    have hreceive : s.receive now r =
        (.single (.status "QUEUED"), queueing (s.noted r) (some (r :: queue))) :=
      receive_queued hqueue (hsteps r List.mem_cons_self)
    obtain ⟨later, hkeys, hfaults, hlater, hsend⟩ :=
      ih (fun r hr => hsteps r (List.mem_cons_of_mem _ hr)) (s.receive now r).1
        (s := queueing (s.noted r) (some (r :: queue))) rfl
    refine ⟨later, hkeys, hfaults, by simpa using hlater, ?_⟩
    rw [← hsend]
    show send now (more ++ [.exec]) (s.receive now r).1 (s.receive now r).2 = _
    rw [hreceive]

/-- What is sent while there is no queue is carried out at once, and there is none to be ended. -/
theorem send_at_once (hsteps : ∀ r ∈ steps, r.IsOf key ∧ r ≠ .multi) (now : Instant)
    (last : Response) (hqueue : s.queue = none) :
    ∃ answer later, send now (steps ++ [.exec]) last s = (.single answer, later) ∧
      Shares key (executeAll now steps s).2 later := by
  induction steps generalizing s last with
  | nil =>
    obtain ⟨line, hexec⟩ := (s.noted .exec).execute_exec now
    refine ⟨.refused line, s.noted .exec, ?_, s.shares_noted key .exec⟩
    show s.receive now .exec = _
    rw [receive_at_once hqueue now (by simp), hexec]
  | cons r more ih =>
    obtain ⟨hof, hmulti⟩ := hsteps r List.mem_cons_self
    have hmore : ∀ r ∈ more, r.IsOf key ∧ r ≠ .multi := fun r hr =>
      hsteps r (List.mem_cons_of_mem _ hr)
    have hreceive := receive_at_once hqueue now hmulti
    obtain ⟨_, hshares⟩ := execute_shares now (s.shares_noted key r) hof
    obtain ⟨_, hall⟩ := executeAll_shares now hshares fun r hr => (hmore r hr).1
    obtain ⟨answer, later, hsend, hlater⟩ := ih hmore (s.receive now r).1
      (s := ((s.noted r).execute now r).2) ((queue_execute now r _).trans hqueue)
    refine ⟨answer, later, ?_, hall.trans hlater⟩
    rw [← hsend]
    show send now (more ++ [.exec]) (s.receive now r).1 (s.receive now r).2 = _
    rw [hreceive]

theorem pushRequests_eq (key value : String) (ttl : Option Nat) :
    pushRequests key value ttl = .multi :: (pushSteps key value ttl ++ [.exec]) := by
  cases ttl <;> rfl

theorem isOf_pushSteps {r : Request} (h : r ∈ pushSteps key value ttl) :
    r.IsOf key ∧ r ≠ .multi ∧ r ≠ .exec := by
  refine ⟨isOf_pushRequests key value ttl r ?_, ?_⟩
  · rw [pushRequests_eq]
    exact List.mem_cons_of_mem _ (List.mem_append_left _ h)
  · cases ttl with
    | none =>
      obtain rfl : r = .lpush key value := by simpa [pushSteps] using h
      simp
    | some seconds =>
      have hr : r = .lpush key value ∨ r = .expire key seconds := by simpa [pushSteps] using h
      rcases hr with rfl | rfl <;> simp

/--
A push comes to its steps unless its queue is refused at its end; but it succeeds only if there
is a queue.
-/
theorem send_push_cases (hqueue : s.queue = none) (now : Instant) (key value : String)
    (ttl : Option Nat) : ∃ response later,
      send now (pushRequests key value ttl) (.queued []) s = (response, later) ∧
      ((s.faults.get? "MULTI" ≠ none ∧ (∃ answer, response = .single answer) ∧
          Shares key (executeAll now (pushSteps key value ttl) s).2 later) ∨
        (s.faults.get? "MULTI" = none ∧ s.faults.get? "EXEC" ≠ none ∧
          (∃ answer, response = .single answer) ∧ Shares key s later) ∨
        s.faults.get? "MULTI" = none ∧ s.faults.get? "EXEC" = none ∧
          response = .queued (executeAll now (pushSteps key value ttl) s).1 ∧
          Shares key (executeAll now (pushSteps key value ttl) s).2 later) := by
  have hsteps : ∀ r ∈ pushSteps key value ttl, r.IsOf key ∧ r ≠ .multi ∧ r ≠ .exec :=
    fun r hr => isOf_pushSteps hr
  rw [pushRequests_eq]
  show ∃ response later, send now (pushSteps key value ttl ++ [.exec]) (s.receive now .multi).1
    (s.receive now .multi).2 = (response, later) ∧ _
  cases hmulti : s.faults.get? "MULTI" with
  | some line =>
    rw [receive_multi_refused hqueue hmulti]
    obtain ⟨answer, later, hsend, hlater⟩ := send_at_once (s := s.noted .multi)
      (fun r hr => ⟨(hsteps r hr).1, (hsteps r hr).2.1⟩) now (.single (.refused line)) hqueue
    obtain ⟨_, hall⟩ := executeAll_shares now (s.shares_noted key .multi)
      fun r hr => (hsteps r hr).1
    exact ⟨_, later, hsend, Or.inl ⟨by simp, ⟨answer, rfl⟩, hall.trans hlater⟩⟩
  | none =>
    rw [receive_multi hqueue hmulti]
    obtain ⟨later, hkeys, hfaults, hlater, hsend⟩ :=
      send_queued (s := queueing (s.noted .multi) (some [])) (fun r hr => (hsteps r hr).2.2) now
        (.single (.status "OK")) rfl
    have hbefore : Shares key s (queueing (later.noted .exec) none) :=
      ⟨congrArg (Table.get? · key) hkeys, hfaults, hqueue.symm⟩
    rw [hsend]
    cases hexec : s.faults.get? "EXEC" with
    | some line =>
      rw [receive_exec_refused hlater ((congrArg (Table.get? · "EXEC") hfaults).trans hexec)]
      exact ⟨_, _, rfl, Or.inr (Or.inl ⟨rfl, by simp, ⟨_, rfl⟩, hbefore⟩)⟩
    | none =>
      rw [receive_exec _ hlater ((congrArg (Table.get? · "EXEC") hfaults).trans hexec)]
      obtain ⟨hanswers, hall⟩ := executeAll_shares now hbefore fun r hr => (hsteps r hr).1
      rw [List.append_nil, List.reverse_reverse]
      exact ⟨_, _, rfl, Or.inr (Or.inr ⟨rfl, rfl, congrArg Response.queued hanswers, hall⟩)⟩

/-! ### Pushes -/

/-- The answers to the steps are taken for a success only if none of them is refused. -/
theorem not_refuses_of_ok
    (h : queueOf (.queued (executeAll now (pushSteps key value ttl) s).1) = .ok ()) :
    ¬ s.RefusesValue now key ∧ ¬ s.RefusesTtl ttl := by
  have hrefused : ∀ {answer : Answer}, accepted answer = .ok () →
      ¬ ∃ line, answer = .refused line := by
    rintro _ haccepted ⟨line, rfl⟩
    cases haccepted
  have hanswers : ((s.execute now (.lpush key value)).1 ::
      (executeAll now (ttl.map fun seconds => Request.expire key seconds).toList
        (s.execute now (.lpush key value)).2).1).forM accepted = .ok () := h
  obtain ⟨hfirst, hmore⟩ := accepted_cons hanswers
  refine ⟨?_, ?_⟩
  · intro hvalue
    rcases s.lpush_cases now key value with ⟨_, hanswer, _⟩ | ⟨hnot, _⟩
    · exact hrefused hfirst hanswer
    · exact hnot hvalue
  · cases ttl with
    | none => exact s.not_refusesTtl_none
    | some seconds =>
      intro httl
      obtain ⟨hsecond, _⟩ := accepted_cons hmore
      rcases (s.execute now (.lpush key value)).2.expire_cases now key seconds with
        ⟨_, hanswer, _⟩ | ⟨hnot, _⟩
      · exact hrefused hsecond hanswer
      · exact hnot ((refusesTtl_execute now _ s _).mpr httl)

/--
A push comes to its steps: its time to live can be sent, and the queue that they are in is
carried out, or they are in none.
-/
def ComesToSteps (s : ListServer) (ttl : Option Nat) : Prop :=
  ttl.getD 0 < limit63 ∧ (s.faults.get? "MULTI" = none → s.faults.get? "EXEC" = none)

/-- A push does both of its steps, or fails with what it came to left behind. -/
theorem perform_push_cases (hqueue : s.queue = none) (now : Instant) (key value : String)
    (ttl : Option Nat) :
    ((perform now (.push key value ttl) s).1 = .ok () ∧ ¬ s.RefusesValue now key ∧
        (perform now (.push key value ttl) s).2.live? now key =
          lasting now ttl (inFront value (s.live? now key))) ∨
      (∃ e, (perform now (.push key value ttl) s).1 = .error e) ∧
        (¬ ComesToSteps s ttl →
          (perform now (.push key value ttl) s).2.live? now key = s.live? now key) ∧
        (ComesToSteps s ttl → s.Leaves now key value ttl
          ((perform now (.push key value ttl) s).2.live? now key)) := by
  have hall := s.leaves_executeAll now key value ttl
  unfold ComesToSteps
  by_cases hlimit : ttl.getD 0 ≥ limit63
  · have hperform : perform now (.push key value ttl) s =
        (.error (.internal "TTL out of range"), s) := if_pos hlimit
    rw [hperform]
    exact Or.inr ⟨⟨_, rfl⟩, fun _ => rfl, fun h => absurd h.1 (Nat.not_lt.mpr hlimit)⟩
  · have hperform : perform now (.push key value ttl) s =
        (queueOf (send now (pushRequests key value ttl) (.queued []) s).1,
          (send now (pushRequests key value ttl) (.queued []) s).2) := if_neg hlimit
    have hfits : ttl.getD 0 < limit63 := Nat.lt_of_not_le hlimit
    obtain ⟨response, later, hsend, hcases⟩ := send_push_cases hqueue now key value ttl
    rw [hperform, hsend]
    dsimp only
    rcases hcases with ⟨hmulti, ⟨answer, rfl⟩, hshares⟩ | ⟨hmulti, hexec, ⟨answer, rfl⟩, hshares⟩ |
      ⟨hmulti, hexec, rfl, hshares⟩
    · refine Or.inr ⟨⟨_, rfl⟩, fun h => absurd ⟨hfits, fun h => absurd h hmulti⟩ h, fun _ => ?_⟩
      rw [hshares.live?]
      exact hall
    · exact Or.inr ⟨⟨_, rfl⟩, fun _ => hshares.live?, fun h => absurd (h.2 hmulti) hexec⟩
    · rw [hshares.live?]
      cases hok : queueOf (.queued (executeAll now (pushSteps key value ttl) s).1) with
      | ok _ =>
        obtain ⟨hvalue, httl⟩ := not_refuses_of_ok hok
        exact Or.inl ⟨rfl, hvalue, hall.ofBoth hvalue httl⟩
      | error e =>
        exact Or.inr ⟨⟨e, rfl⟩, fun h => absurd ⟨hfits, fun _ => hexec⟩ h, fun _ => hall⟩

/-- What a client reads of a list. -/
theorem reads_of_live? {values : List String} {expires : Option Instant}
    (h : s.live? now key = some ⟨.list values, expires⟩) :
    (s.values now key, s.ttl now key) = (values, (Held.mk [] expires).ttl now) := by
  unfold ListServer.values ListServer.ttl
  rw [h]
  rfl

/-- In front of a list, or of nothing, there is a list that begins with the value. -/
theorem inFront_of_not_refuses (h : ¬ s.RefusesValue now key) (value : String) :
    ∃ expires, inFront value (s.live? now key) = some ⟨.list (value :: s.values now key), expires⟩ ∧
      s.ttl now key = (Held.mk [] expires).ttl now := by
  unfold ListServer.values ListServer.ttl
  rcases hlive : s.live? now key with _ | ⟨values | _, expires⟩
  · exact ⟨none, rfl, rfl⟩
  · exact ⟨expires, rfl, rfl⟩
  · exact absurd (Or.inr ⟨expires, hlive⟩) h

/--
**What a push leaves.**  When it succeeds its value is in front of the list, which has the time
to live that was given or else the one it had; of no time nothing is left.  When it fails and
came to its steps, each of them that was not refused has taken effect; when it did not come to
them, nothing has.
-/
theorem push_leaves (s : ListServer) (hqueue : s.queue = none) (now : Instant)
    (key value : String) (ttl : Option Nat) :
    ((perform now (.push key value ttl) s).1 = .ok () →
      (ttl = none → ((perform now (.push key value ttl) s).2.values now key,
          (perform now (.push key value ttl) s).2.ttl now key) =
        (value :: s.values now key, s.ttl now key)) ∧
      (ttl = some 0 → (perform now (.push key value ttl) s).2.live? now key = none) ∧
      ∀ seconds, ttl = some seconds → 1 ≤ seconds →
        ((perform now (.push key value ttl) s).2.values now key,
            (perform now (.push key value ttl) s).2.ttl now key) =
          (value :: s.values now key, some seconds)) ∧
    ∀ e, (perform now (.push key value ttl) s).1 = .error e →
      (¬ ComesToSteps s ttl →
        (perform now (.push key value ttl) s).2.live? now key = s.live? now key) ∧
      (ComesToSteps s ttl →
        s.Leaves now key value ttl ((perform now (.push key value ttl) s).2.live? now key)) := by
  rcases perform_push_cases hqueue now key value ttl with
    ⟨hok, hvalue, hlive⟩ | ⟨⟨e, herror⟩, hleft⟩
  · refine ⟨fun _ => ?_, fun e herror => by simp [hok] at herror⟩
    obtain ⟨expires, hfront, httl⟩ := inFront_of_not_refuses hvalue value
    rw [hfront] at hlive
    refine ⟨?_, ?_, ?_⟩
    · rintro rfl
      rw [httl]
      exact reads_of_live? hlive
    · rintro rfl
      exact hlive
    · rintro seconds rfl hpos
      have hlasting := hlive.trans (if_neg (Nat.ne_of_gt hpos))
      rw [reads_of_live? hlasting, Held.ttl_after]
  · refine ⟨fun hok => ?_, fun _ _ => hleft⟩
    rw [herror] at hok
    cases hok

namespace Sample

/-- The beginning of time. -/
def start : Instant := ⟨0⟩

/-- A server that holds a list for ten seconds and gives nothing a time to live. -/
def unlasting : ListServer where
  keys := Table.empty.insert "sessions" ⟨.list ["old"], some (after start 10)⟩
  faults := Table.empty.insert "EXPIRE" "OOM command not allowed"

end Sample

/-- Where a time to live is refused, the value is in front and the list lives as long as before. -/
theorem push_leaves_value : ∃ e,
    (perform Sample.start (.push "sessions" "new" (some 60)) Sample.unlasting).1 = .error e ∧
    (perform Sample.start (.push "sessions" "new" (some 60)) Sample.unlasting).2.live?
        Sample.start "sessions" =
      some ⟨.list ["new", "old"], some (after Sample.start 10)⟩ := by
  refine ⟨_, rfl, ?_⟩
  have hleaves := ((push_leaves Sample.unlasting rfl Sample.start "sessions" "new" (some 60)).2 _
    rfl).2 ⟨by decide, fun _ => rfl⟩
  have hvalue : ¬ Sample.unlasting.RefusesValue Sample.start "sessions" := by
    rintro (htold | ⟨expires, htext⟩)
    · exact htold rfl
    · cases htext
  exact (hleaves.ofValue hvalue ⟨60, rfl, Or.inl (by decide)⟩).trans rfl

/-- A push that fails does not always leave the list and its time to live as they were. -/
theorem not_forall_push_atomic : ¬ ∀ (s : ListServer), s.queue = none →
    ∀ (now : Instant) (key value : String) (ttl : Option Nat),
    ((perform now (.push key value ttl) s).1 = .ok () →
      (ttl = none → ((perform now (.push key value ttl) s).2.values now key,
          (perform now (.push key value ttl) s).2.ttl now key) =
        (value :: s.values now key, s.ttl now key)) ∧
      (ttl = some 0 → (perform now (.push key value ttl) s).2.live? now key = none) ∧
      ∀ seconds, ttl = some seconds → 1 ≤ seconds →
        ((perform now (.push key value ttl) s).2.values now key,
            (perform now (.push key value ttl) s).2.ttl now key) =
          (value :: s.values now key, some seconds)) ∧
    ∀ e, (perform now (.push key value ttl) s).1 = .error e →
      ((perform now (.push key value ttl) s).2.values now key,
          (perform now (.push key value ttl) s).2.ttl now key) =
        (s.values now key, s.ttl now key) := by
  intro hatomic
  obtain ⟨_, hfails⟩ :=
    hatomic Sample.unlasting rfl Sample.start "sessions" "new" (some 60)
  have hsame := congrArg Prod.fst (hfails _ rfl)
  exact absurd hsame (by decide)

end Remote

end SessionAuth.Cache
