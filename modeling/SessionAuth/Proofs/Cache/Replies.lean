/-
What a reply gives away of a list.

Where there is a list at a key, or nothing, the reply to a command does not depend on what is
in the list, with two exceptions: reading it, and a removal, which tells whether there was
something to take out.  Otherwise a server replies what it was told to refuse, and that is all
it takes to foresee the reply (`get_reply`, `delete_reply`, `push_reply`, and `remove_reply` for
a value that is there).

None of the commands puts a text in the place of a list (`holdsNoText_perform`), so the same can
be said of one command after the other.
-/
import SessionAuth.Proofs.Cache.Pushed

namespace SessionAuth.Cache

variable {now : Instant} {key value : String} {seconds : Nat}

namespace ListServer

variable {s s' : ListServer} {r : Request}

/-! ### Where no text stands -/

/-- What is live at the key is a list, or nothing is. -/
def HoldsNoText (s : ListServer) (now : Instant) (key : String) : Prop :=
  ∀ expires, s.live? now key ≠ some ⟨.text, expires⟩

theorem holdsNoText_congr (h : s'.keys.get? key = s.keys.get? key) :
    s'.HoldsNoText now key ↔ s.HoldsNoText now key := by
  unfold HoldsNoText live?
  rw [h]

theorem HoldsNoText.live?_cases (h : s.HoldsNoText now key) :
    s.live? now key = none ∨ ∃ values expires, s.live? now key = some ⟨.list values, expires⟩ := by
  rcases hlive : s.live? now key with _ | ⟨values | _, expires⟩
  · exact Or.inl rfl
  · exact Or.inr ⟨values, expires, rfl⟩
  · exact absurd hlive (h expires)

/-- A list that is stored is no text. -/
theorem holdsNoText_store_list (s : ListServer) (now : Instant) (key : String)
    (values : List String) (expires : Option Instant) :
    (s.store key (some ⟨.list values, expires⟩)).HoldsNoText now key := by
  intro other hlive
  rw [live?_store_self] at hlive
  cases (Option.filter_eq_some_iff.mp hlive).1

theorem holdsNoText_store_none (s : ListServer) (now : Instant) (key : String) :
    (s.store key none).HoldsNoText now key := by
  intro other hlive
  rw [live?_store_self] at hlive
  cases hlive

/-- Reading, taking out and dropping do not put a text in the place of a list. -/
theorem HoldsNoText.execute (h : s.HoldsNoText now key)
    (hr : r = .lrange key ∨ (∃ value, r = .lrem key value) ∨ r = .del key) :
    (s.execute now r).2.HoldsNoText now key := by
  unfold ListServer.execute
  split
  · exact h
  · rcases hr with rfl | ⟨value, rfl⟩ | rfl
    · dsimp only
      split <;> exact h
    · dsimp only
      split
      · exact h
      · split
        · exact holdsNoText_store_none s now key
        · exact holdsNoText_store_list s now key _ _
      · exact h
    · dsimp only
      split <;> exact holdsNoText_store_none s now key

end ListServer

namespace Remote

open ListServer

variable {s : ListServer}

/-! ### Replies -/

/-- The reply to a command that succeeds unless it is refused. -/
def unlessRefused {α : Type} (faults : Table String String) (name : String) (reply : α) :
    Except AuthError α :=
  match faults.get? name with
  | some line => .error (.cache (faultOf line))
  | none => .ok reply

/-- The list is read unless that is refused. -/
theorem get_reply (hqueue : s.queue = none) (htext : s.HoldsNoText now key) :
    (perform now (.get key) s).1 = unlessRefused s.faults "LRANGE" (s.values now key) := by
  show itemsOf (s.receive now (.lrange key)).1 = _
  rw [receive_at_once hqueue now (by simp)]
  unfold execute unlessRefused
  rw [show (s.noted (.lrange key)).faults.get? (Request.lrange key).name = s.faults.get? "LRANGE"
    from rfl]
  cases s.faults.get? "LRANGE" with
  | some line => rfl
  | none =>
    have hlive : (s.noted (.lrange key)).live? now key = s.live? now key := rfl
    unfold ListServer.values
    rcases htext.live?_cases with hnone | ⟨values, expires, hsome⟩
    · simp only [hlive, hnone]
      rfl
    · simp only [hlive, hsome]
      rfl

/-- Where a list could be read, no text stands. -/
theorem holdsNoText_of_get {entries : List String}
    (h : (perform now (.get key) s).1 = .ok entries) : s.HoldsNoText now key := by
  intro expires hlive
  have hitems : itemsOf (s.receive now (.lrange key)).1 = .ok entries := h
  rw [receive_at_once (queue_of_get h) now (by simp)] at hitems
  unfold execute at hitems
  split at hitems
  · cases hitems
  · simp only [show (s.noted (.lrange key)).live? now key = some ⟨.text, expires⟩ from hlive]
      at hitems
    cases hitems

/-- A list is dropped unless that is refused. -/
theorem delete_reply (hqueue : s.queue = none) :
    (perform now (.delete key) s).1 = unlessRefused s.faults "DEL" () := by
  show (countOf (s.receive now (.del key)).1).map (fun _ => ()) = _
  rw [receive_at_once hqueue now (by simp)]
  unfold execute unlessRefused
  rw [show (s.noted (.del key)).faults.get? (Request.del key).name = s.faults.get? "DEL" from rfl]
  cases s.faults.get? "DEL" with
  | some line => rfl
  | none =>
    dsimp only
    split <;> rfl

/-- A value that is there is taken out unless that is refused. -/
theorem remove_reply (hqueue : s.queue = none) (hmem : value ∈ s.values now key) :
    (perform now (.remove key value) s).1 = unlessRefused s.faults "LREM" true := by
  show (countOf (s.receive now (.lrem key value)).1).map (fun n => decide (0 < n)) = _
  rw [receive_at_once hqueue now (by simp)]
  unfold execute unlessRefused
  rw [show (s.noted (.lrem key value)).faults.get? (Request.lrem key value).name =
    s.faults.get? "LREM" from rfl]
  cases s.faults.get? "LREM" with
  | some line => rfl
  | none =>
    have hlive : (s.noted (.lrem key value)).live? now key = s.live? now key := rfl
    unfold ListServer.values at hmem
    split at hmem
    · rename_i values expires hsome
      have hlt : (values.filter (· != value)).length < values.length :=
        List.length_filter_lt_length_iff_exists.mpr ⟨value, hmem, by simp⟩
      simp only [hlive, hsome]
      exact congrArg Except.ok (decide_eq_true (Nat.sub_pos_of_lt hlt))
    · cases hmem

/-- What is left of the list when all copies of a value have been taken out. -/
theorem values_remove (hqueue : s.queue = none) {removed : Bool}
    (h : (perform now (.remove key value) s).1 = .ok removed) :
    (perform now (.remove key value) s).2.values now key =
      (s.values now key).filter (· != value) := by
  have hcount : (countOf (s.receive now (.lrem key value)).1).map (fun n => decide (0 < n)) =
    .ok removed := h
  show (s.receive now (.lrem key value)).2.values now key = _
  rw [receive_at_once hqueue now (by simp)] at hcount ⊢
  have hlive : (s.noted (.lrem key value)).live? now key = s.live? now key := rfl
  unfold execute at hcount ⊢
  split at hcount
  · cases hcount
  · dsimp only at hcount ⊢
    conv => rhs; unfold ListServer.values
    rcases hsome : s.live? now key with _ | ⟨values | _, expires⟩
    · simp only [hlive, hsome]
      unfold ListServer.values
      rw [hlive, hsome]
      rfl
    · simp only [hlive, hsome]
      split
      · rename_i hempty
        rw [values_store_none, List.isEmpty_iff.mp hempty]
      · have hthere : (s.noted (.lrem key value)).live? now key = some ⟨.list values, expires⟩ :=
          hlive.trans hsome
        exact values_store_list hthere
    · simp only [hlive, hsome] at hcount
      cases hcount

/-! ### Pushes -/

/-- What a push with a time to live is replied where no text stands. -/
def pushReply (faults : Table String String) (seconds : Nat) : Except AuthError Unit :=
  if seconds ≥ limit63 then .error (.internal "TTL out of range")
  else if faults.get? "MULTI" ≠ none ∨ faults.get? "EXEC" ≠ none then
    .error (.cache queueFault)
  else do
    unlessRefused faults "LPUSH" ()
    unlessRefused faults "EXPIRE" ()
    if longestTtl < seconds then
      .error (.cache (faultOf "ERR invalid expire time in 'expire' command"))
    else .ok ()

/-- A value is put in front unless that is refused. -/
theorem accepted_lpush (htext : s.HoldsNoText now key) :
    accepted (s.execute now (.lpush key value)).1 = unlessRefused s.faults "LPUSH" () := by
  unfold execute unlessRefused
  rw [show (Request.lpush key value).name = "LPUSH" from rfl]
  cases s.faults.get? "LPUSH" with
  | some line => rfl
  | none =>
    rcases htext.live?_cases with hnone | ⟨values, expires, hsome⟩
    · simp only [hnone]
      rfl
    · simp only [hsome]
      rfl

/-- Some time is given unless that is refused, or too long. -/
theorem accepted_expire (s : ListServer) (now : Instant) (key : String) (seconds : Nat) :
    accepted (s.execute now (.expire key seconds)).1 = (do
      unlessRefused s.faults "EXPIRE" ()
      if longestTtl < seconds then
        .error (.cache (faultOf "ERR invalid expire time in 'expire' command"))
      else .ok ()) := by
  unfold execute unlessRefused
  rw [show (Request.expire key seconds).name = "EXPIRE" from rfl]
  cases s.faults.get? "EXPIRE" with
  | some line => rfl
  | none =>
    dsimp only
    by_cases hlong : longestTtl < seconds
    · rw [if_pos (by omega)]
      exact (if_pos hlong).symm
    · rw [if_neg (by omega)]
      refine Eq.trans ?_ (if_neg hlong).symm
      split
      · rfl
      · split <;> rfl

/-- A push is replied what its two steps are, if they are carried out as a queue. -/
theorem push_reply (hqueue : s.queue = none) (htext : s.HoldsNoText now key) :
    (perform now (.push key value (some seconds)) s).1 = pushReply s.faults seconds := by
  unfold perform pushReply
  dsimp only
  rw [Option.getD_some]
  split
  · rfl
  · cases hmulti : s.faults.get? "MULTI" with
    | some line =>
      obtain ⟨answer, hsend⟩ := send_push_of_refused hqueue hmulti now key value seconds
      rw [hsend, if_pos (Or.inl (by simp))]
      rfl
    | none =>
      rcases send_push hqueue now key value seconds hmulti with
        ⟨line, hexec, hsend⟩ | ⟨hexec, hsend⟩
      · rw [hsend, hexec, if_pos (Or.inr (by simp))]
        rfl
      · have hlpush : accepted ((pushed s key value seconds).execute now (.lpush key value)).1 =
            unlessRefused s.faults "LPUSH" () :=
          accepted_lpush (s := pushed s key value seconds) htext
        have hexpire := accepted_expire
          ((pushed s key value seconds).execute now (.lpush key value)).2 now key seconds
        rw [faults_execute] at hexpire
        rw [hsend, executeAll_push, hexec, if_neg (by simp)]
        show (accepted _ >>= fun _ => accepted _ >>= fun _ => pure ()) = _
        rw [hlpush, hexpire, bind_pure_unit]
        rfl

/-! ### One command after the other -/

/-- What reads or takes away does not put a text in the place of a list. -/
theorem holdsNoText_perform {c : Command} (hqueue : s.queue = none)
    (hpush : ∀ k value ttl, c ≠ .push k value ttl) (h : s.HoldsNoText now c.key) :
    (perform now c s).2.HoldsNoText now c.key := by
  have hreceive : ∀ r : Request, r ≠ .multi →
      (r = .lrange c.key ∨ (∃ value, r = .lrem c.key value) ∨ r = .del c.key) →
      (s.receive now r).2.HoldsNoText now c.key := by
    intro r hmulti hr
    rw [receive_at_once hqueue now hmulti]
    exact HoldsNoText.execute (s := s.noted r) h hr
  cases c with
  | get k => exact hreceive (.lrange k) (by simp) (Or.inl rfl)
  | push k value ttl => exact absurd rfl (hpush k value ttl)
  | remove k value => exact hreceive (.lrem k value) (by simp) (Or.inr (Or.inl ⟨value, rfl⟩))
  | delete k => exact hreceive (.del k) (by simp) (Or.inr (Or.inr rfl))

end Remote

end SessionAuth.Cache
