/-
Pushes that succeed.

When a push with a time to live succeeds, its value is in front of the list and the whole list
has that time to live.  On a server nothing else has to be known for that, neither what it
refuses nor what is stored at other keys: had a part of the push been refused, or had there been
no list at its key, the client would have been told.
-/
import SessionAuth.Proofs.Cache.Cell

namespace SessionAuth.Cache

variable {now : Instant} {key value : String} {seconds : Nat}

/-- Some seconds are left of some seconds. -/
theorem Held.ttl_after (now : Instant) (values : List String) (seconds : Nat) :
    (Held.mk values (some (after now seconds))).ttl now = some seconds := by
  have hleft : ((after now seconds).nanos - now.nanos).toNat = seconds * nanosPerSecond := by
    show (now.nanos + (seconds : Int) * (nanosPerSecond : Int) - now.nanos).toNat = _
    omega
  unfold Held.ttl
  rw [Option.map_some, hleft]
  unfold nanosPerSecond
  exact congrArg some (by omega)

/-! ### In memory -/

/-- In memory every push succeeds. -/
theorem Memory.list_push (m : Memory) (h : 1 ≤ seconds) :
    ((m.push now key value (some seconds)).values now key,
        (m.push now key value (some seconds)).ttl now key) =
      (value :: m.values now key, some seconds) := by
  have hlive : (m.push now key value (some seconds)).live? now key =
      some ⟨value :: m.values now key, some (after now seconds)⟩ := live?_push_self h
  unfold ttl
  rw [values_push_self h, hlive, Option.bind_some, Held.ttl_after]

/-! ### On a server -/

namespace Remote

open ListServer

variable {s : ListServer}

/-- What was put in front of something that is no list was refused. -/
theorem live?_of_lpush (h : accepted (s.execute now (.lpush key value)).1 = .ok ()) :
    ∃ expires, (s.execute now (.lpush key value)).2.live? now key =
      some ⟨.list (value :: s.values now key), expires⟩ := by
  unfold execute at h ⊢
  unfold ListServer.values
  split at h
  · cases h
  · dsimp only at h ⊢
    rcases hlive : s.live? now key with _ | ⟨content, expires⟩
    · exact ⟨none, live?_store_self⟩
    · rw [hlive] at h
      cases content with
      | text => cases h
      | list values =>
        refine ⟨expires, ?_⟩
        dsimp only
        rw [live?_store_self, Option.filter_some, if_pos (isLive_of_live? hlive [])]

/-- What is live and is given some time lives for that time, unless that was refused. -/
theorem live?_of_expire {content : Content} {expires : Option Instant} (hpos : 1 ≤ seconds)
    (hlive : s.live? now key = some ⟨content, expires⟩)
    (h : accepted (s.execute now (.expire key seconds)).1 = .ok ()) :
    (s.execute now (.expire key seconds)).2.live? now key =
      some ⟨content, some (after now seconds)⟩ := by
  unfold execute at h ⊢
  split at h
  · cases h
  · dsimp only at h ⊢
    split at h
    · cases h
    · rename_i hlong
      rw [if_neg hlong, hlive]
      dsimp only
      rw [if_neg (by omega), live?_store_self, Option.filter_some,
        if_pos (Held.isLive_after (by omega))]
      rfl

/-- The first of several commands was accepted, and so were the others. -/
theorem accepted_cons {answer : Answer} {answers : List Answer}
    (h : (answer :: answers).forM accepted = .ok ()) :
    accepted answer = .ok () ∧ answers.forM accepted = .ok () := by
  have h : (accepted answer >>= fun _ => answers.forM accepted) = .ok () := h
  cases hfirst : accepted answer with
  | ok _ =>
    rw [hfirst] at h
    exact ⟨rfl, h⟩
  | error e =>
    rw [hfirst] at h
    cases h

/-- If no queue could be opened for a push, what ends the queue is answered alone. -/
theorem send_push_of_refused {line : String} (h : s.queue = none)
    (hmulti : s.faults.get? "MULTI" = some line) (now : Instant) (key value : String)
    (seconds : Nat) :
    ∃ answer, (send now (pushRequests key value (some seconds)) (.queued []) s).1 =
      .single answer := by
  have hsend : send now (pushRequests key value (some seconds)) (.queued []) s =
      ListServer.receive now .exec (ListServer.receive now (.expire key seconds)
        (ListServer.receive now (.lpush key value) (s.receive now .multi).2).2).2 := rfl
  have hlpush : ((s.noted .multi).receive now (.lpush key value)).2.queue = none :=
    queue_receive (s := s.noted .multi) (r := .lpush key value) h now (by simp)
  rw [hsend, receive_multi_refused h hmulti,
    receive_at_once (queue_receive (r := .expire key seconds) hlpush now (by simp)) now (by simp)]
  exact ⟨_, rfl⟩

/-- **A push that the server carries out puts its value in front, and the list lives as told.** -/
theorem list_push (hqueue : s.queue = none)
    (h : (perform now (.push key value (some seconds)) s).1 = .ok ()) (hpos : 1 ≤ seconds) :
    ((perform now (.push key value (some seconds)) s).2.values now key,
        (perform now (.push key value (some seconds)) s).2.ttl now key) =
      (value :: s.values now key, some seconds) := by
  unfold perform at h ⊢
  dsimp only at h ⊢
  split at h
  · cases h
  · rename_i hinRange
    rw [if_neg hinRange]
    cases hmulti : s.faults.get? "MULTI" with
    | some line =>
      obtain ⟨answer, hsend⟩ := send_push_of_refused hqueue hmulti now key value seconds
      dsimp only at h
      rw [hsend] at h
      cases h
    | none =>
      rcases send_push hqueue now key value seconds hmulti with ⟨line, _, hsend⟩ | ⟨_, hsend⟩
      · rw [hsend] at h
        cases h
      · rw [hsend, executeAll_push] at h ⊢
        obtain ⟨hlpush, hmore⟩ := accepted_cons h
        obtain ⟨hexpire, _⟩ := accepted_cons hmore
        obtain ⟨expires, hlive⟩ := live?_of_lpush hlpush
        have hlast := live?_of_expire hpos hlive hexpire
        unfold ListServer.values ListServer.ttl
        dsimp only
        rw [hlast, Option.bind_some, Held.ttl_after]
        rfl

end Remote

end SessionAuth.Cache
