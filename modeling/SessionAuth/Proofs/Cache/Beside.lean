/-
List servers side by side.

Two servers with the same keys that refuse the same commands may still refuse them in different
words.  A command that is given to both is carried out on both or refused by both, so they stay
side by side, and what a client makes of it is the same list, the same count or a fault on
either side (`Beside.perform`).
-/
import SessionAuth.Proofs.Cache.Remote
import SessionAuth.Proofs.Service.Coupled

namespace SessionAuth.Cache

/-- The answers are the same, or they are both refusals. -/
inductive Answer.Alike : Answer → Answer → Prop
  | same (answer : Answer) : Alike answer answer
  | refused (line line' : String) : Alike (.refused line) (.refused line')

/-- So are the responses, answer by answer. -/
inductive Response.Alike : Response → Response → Prop
  | single {answer answer' : Answer} (h : answer.Alike answer') :
    Alike (.single answer) (.single answer')
  | queued {answers answers' : List Answer} (h : List.Forall₂ Answer.Alike answers answers') :
    Alike (.queued answers) (.queued answers')

namespace ListServer

variable {s s' : ListServer}

/-- The servers differ in the words of their refusals only. -/
structure Beside (s s' : ListServer) : Prop where
  keys : s'.keys = s.keys
  queue : s'.queue = s.queue
  received : s'.received = s.received
  refuses : ∀ name, (s'.faults.get? name).isSome = (s.faults.get? name).isSome

theorem Beside.refl (s : ListServer) : Beside s s := ⟨rfl, rfl, rfl, fun _ => rfl⟩

/-- The server with other words for its refusals. -/
def refusing (faults : Table String String) (s : ListServer) : ListServer :=
  { s with faults := faults }

theorem Beside.eq (h : Beside s s') : s' = s.refusing s'.faults := by
  obtain ⟨keys, faults, queue, received⟩ := s
  obtain ⟨keys', faults', queue', received'⟩ := s'
  obtain ⟨rfl, rfl, rfl, -⟩ := h
  rfl

/-- Both refuse a command, or neither does. -/
theorem Beside.fault_cases (h : Beside s s') (name : String) :
    (∃ line line', s.faults.get? name = some line ∧ s'.faults.get? name = some line') ∨
      s.faults.get? name = none ∧ s'.faults.get? name = none := by
  have hsome := h.refuses name
  cases hline : s.faults.get? name with
  | none =>
    rw [hline] at hsome
    exact Or.inr ⟨rfl, Option.isSome_eq_false_iff.mp hsome |> Option.isNone_iff_eq_none.mp⟩
  | some line =>
    rw [hline] at hsome
    obtain ⟨line', hline'⟩ := Option.isSome_iff_exists.mp hsome
    exact Or.inl ⟨line, line', rfl, hline'⟩

/-- A command that is not refused is carried out whatever the words for others. -/
theorem execute_refusing {faults : Table String String} {now : Instant} {r : Request}
    (h : s.faults.get? r.name = none) (h' : faults.get? r.name = none) :
    (s.refusing faults).execute now r =
      ((s.execute now r).1, (s.execute now r).2.refusing faults) := by
  unfold execute
  rw [h, show (s.refusing faults).faults.get? r.name = none from h']
  cases r with
  | lrange key | lpush key value | del key | lrem key value =>
    dsimp only
    rw [show (s.refusing faults).live? now key = s.live? now key from rfl]
    rcases s.live? now key with _ | ⟨content, expires⟩
    · rfl
    · cases content <;> rfl
  | expire key seconds =>
    dsimp only
    rw [show (s.refusing faults).live? now key = s.live? now key from rfl]
    split
    · rfl
    · cases s.live? now key with
      | none => rfl
      | some stored =>
        dsimp only
        split <;> rfl
  | ping | multi | exec => rfl

/-- What was told and left on both sides. -/
def Told (x x' : Response × ListServer) : Prop := x.1.Alike x'.1 ∧ Beside x.2 x'.2

/-! ### Commands of the server -/

theorem Beside.execute (h : Beside s s') (now : Instant) (r : Request) :
    (s.execute now r).1.Alike (s'.execute now r).1 ∧
      Beside (s.execute now r).2 (s'.execute now r).2 := by
  rcases h.fault_cases r.name with ⟨line, line', hline, hline'⟩ | ⟨hnone, hnone'⟩
  · unfold ListServer.execute
    rw [hline, hline']
    exact ⟨.refused line line', h⟩
  · have hfaults : (s.execute now r).2.faults = s.faults := faults_execute now r s
    rw [h.eq, execute_refusing hnone hnone']
    refine ⟨.same _, rfl, rfl, rfl, ?_⟩
    intro name
    rw [hfaults]
    exact h.refuses name

theorem Beside.executeAll (h : Beside s s') (now : Instant) (queue : List Request) :
    List.Forall₂ Answer.Alike (executeAll now queue s).1 (executeAll now queue s').1 ∧
      Beside (ListServer.executeAll now queue s).2 (ListServer.executeAll now queue s').2 := by
  induction queue generalizing s s' with
  | nil => exact ⟨.nil, h⟩
  | cons r more ih =>
    obtain ⟨hanswer, hafter⟩ := h.execute now r
    obtain ⟨hanswers, hlast⟩ := ih hafter
    exact ⟨.cons hanswer hanswers, hlast⟩

theorem Beside.noted (h : Beside s s') (r : Request) : Beside (s.noted r) (s'.noted r) :=
  ⟨h.keys, h.queue, congrArg (· ++ [r.words]) h.received, h.refuses⟩

theorem Beside.queueing (h : Beside s s') (queue : Option (List Request)) :
    Beside (Remote.queueing s queue) (Remote.queueing s' queue) :=
  ⟨h.keys, rfl, h.received, h.refuses⟩

/-- Whatever is received on both sides, they are told alike. -/
theorem Beside.receive (h : Beside s s') (now : Instant) (r : Request) :
    Told (s.receive now r) (s'.receive now r) := by
  cases hqueue : s.queue with
  | none =>
    have hqueue' : s'.queue = none := h.queue.trans hqueue
    by_cases hmulti : r = .multi
    · subst hmulti
      rcases h.fault_cases "MULTI" with ⟨line, line', hline, hline'⟩ | ⟨hnone, hnone'⟩
      · rw [receive_multi_refused hqueue hline, receive_multi_refused hqueue' hline']
        exact ⟨.single (.refused line line'), h.noted .multi⟩
      · rw [Remote.receive_multi hqueue hnone, Remote.receive_multi hqueue' hnone']
        exact ⟨.single (.same _), (h.noted .multi).queueing _⟩
    · obtain ⟨hanswer, hafter⟩ := (h.noted r).execute now r
      rw [receive_at_once hqueue now hmulti, receive_at_once hqueue' now hmulti]
      exact ⟨.single hanswer, hafter⟩
  | some queue =>
    have hqueue' : s'.queue = some queue := h.queue.trans hqueue
    by_cases hexec : r = .exec
    · subst hexec
      have hended := (h.noted .exec).queueing none
      rcases h.fault_cases "EXEC" with ⟨line, line', hline, hline'⟩ | ⟨hnone, hnone'⟩
      · rw [Remote.receive_exec_refused hqueue hline, Remote.receive_exec_refused hqueue' hline']
        exact ⟨.single (.refused line line'), hended⟩
      · obtain ⟨hanswers, hafter⟩ := hended.executeAll now queue.reverse
        rw [Remote.receive_exec queue hqueue hnone, Remote.receive_exec queue hqueue' hnone']
        exact ⟨.queued hanswers, hafter⟩
    · rw [Remote.receive_queued hqueue hexec, Remote.receive_queued hqueue' hexec]
      exact ⟨.single (.same _), (h.noted r).queueing _⟩

/-- So they are over several commands, of which the last one counts. -/
theorem Beside.send (h : Beside s s') (now : Instant) (requests : List Request)
    {last last' : Response} (hlast : last.Alike last') :
    Told (Remote.send now requests last s) (Remote.send now requests last' s') := by
  induction requests generalizing s s' last last' with
  | nil => exact ⟨hlast, h⟩
  | cons r more ih =>
    obtain ⟨hresponse, hafter⟩ := h.receive now r
    exact ih hafter hresponse

end ListServer

/-! ### Commands of the cache -/

namespace Remote

open ListServer (Beside)

variable {s s' : ListServer} {E : AuthError → AuthError → Prop}

/-- Errors belong together when they are the same, and when they are faults of the cache. -/
structure Conveys (E : AuthError → AuthError → Prop) : Prop where
  same : ∀ e, E e e
  faults : ∀ fault fault', E (.cache fault) (.cache fault')

variable (hE : Conveys E) {response response' : Response} (h : response.Alike response')
include hE h

theorem matched_itemsOf : Matched E Eq (itemsOf response) (itemsOf response') := by
  cases h with
  | single h =>
    cases h with
    | same answer => exact .refl hE.same _
    | refused line line' => exact .error (hE.faults _ _)
  | queued h => exact .error (hE.same _)

theorem matched_countOf : Matched E Eq (countOf response) (countOf response') := by
  cases h with
  | single h =>
    cases h with
    | same answer => exact .refl hE.same _
    | refused line line' => exact .error (hE.faults _ _)
  | queued h => exact .error (hE.same _)

theorem matched_queueOf : Matched E Eq (queueOf response) (queueOf response') := by
  cases h with
  | single h => exact .error (hE.same _)
  | queued h =>
    unfold queueOf
    dsimp only
    induction h with
    | nil => exact .ok rfl
    | @cons answer _ _ _ hanswer _ ih =>
      cases hanswer with
      | refused line line' => exact .error (hE.faults _ _)
      | same =>
        cases answer with
        | refused line => exact .error (hE.same _)
        | status _ | count _ | values _ => exact ih

omit h in
/-- **A command that is given to both servers comes to the same, or to a fault on both sides.** -/
theorem perform_beside (h : Beside s s') (now : Instant) (c : Command) :
    Matched E Eq (perform now c s).1 (perform now c s').1 ∧
      Beside (perform now c s).2 (perform now c s').2 := by
  cases c with
  | get key =>
    obtain ⟨hresponse, hafter⟩ := h.receive now (.lrange key)
    exact ⟨matched_itemsOf hE hresponse, hafter⟩
  | push key value ttl =>
    unfold perform
    dsimp only
    split
    · exact ⟨.refl hE.same _, h⟩
    · have hlast : (Response.queued []).Alike (.queued []) := .queued .nil
      obtain ⟨hresponse, hafter⟩ := h.send now (pushRequests key value ttl) hlast
      exact ⟨matched_queueOf hE hresponse, hafter⟩
  | remove key value =>
    obtain ⟨hresponse, hafter⟩ := h.receive now (.lrem key value)
    exact ⟨(matched_countOf hE hresponse).map _, hafter⟩
  | delete key =>
    obtain ⟨hresponse, hafter⟩ := h.receive now (.del key)
    exact ⟨(matched_countOf hE hresponse).map _, hafter⟩

end Remote

end SessionAuth.Cache
