/-
Replies where a list can be read.

At a key where a list could be read (`Setup.Legible`), two stores of a setup that refuse the same
reply the same, whatever the lists are: that is so of dropping the list and of pushing a value,
whichever value it is, and of taking out a value that is there.  Reading fails with the same
error or gives each list (`Setup.replies_get`).  A watched setup is told to fail by kinds of
command, and not by what the commands are about.
-/
import SessionAuth.Proofs.Cache.Replies
import SessionAuth.Proofs.Deployment.Listed

namespace SessionAuth

open Cache (Command)

namespace Setup

variable {x : Setup} {now : Instant} {key value value' : String} {seconds : Nat}
  {st st' : x.Store}

/-! ### Watched commands -/

section Watched

variable {inner : Setup}

/-- What a watched setup replies: what it was told to, or what the inner one does. -/
theorem fst_cache_watched (c : Command) (st : (watched inner).Store) :
    ((watched inner).deployment.cache now c st).1 =
      if Collaboration.ofCache c ∈ st.failing then .error injectedCacheFault
      else Watched.reported st.losesRemovals c (inner.deployment.cache now c st.inner).1 := by
  split
  · rename_i hfails
    exact congrArg Prod.fst (View.cache_of_failing (d := inner.deployment) hfails)
  · rename_i hworks
    exact congrArg Prod.fst (View.cache_of_working (d := inner.deployment) hworks)

theorem fst_push_watched (ttl : Option Nat) (st : (watched inner).Store) :
    ((watched inner).deployment.cache now (.push key value ttl) st).1 =
      if Collaboration.push ∈ st.failing then .error injectedCacheFault
      else (inner.deployment.cache now (.push key value ttl) st.inner).1 :=
  fst_cache_watched (.push key value ttl) st

/-- A removal may be reported as if it had not taken place. -/
theorem fst_remove_watched (st : (watched inner).Store) :
    ((watched inner).deployment.cache now (.remove key value) st).1 =
      if Collaboration.remove ∈ st.failing then .error injectedCacheFault
      else (inner.deployment.cache now (.remove key value) st.inner).1.map
        fun removed => !st.losesRemovals && removed := by
  rw [fst_cache_watched (.remove key value) st]
  cases (inner.deployment.cache now (.remove key value) st.inner).1 <;> rfl

/-- What it leaves: what the inner one does, or what was there. -/
theorem inner_cache_watched (c : Command) (st : (watched inner).Store) :
    ((watched inner).deployment.cache now c st).2.inner = st.inner ∨
      ((watched inner).deployment.cache now c st).2.inner =
        (inner.deployment.cache now c st.inner).2 := by
  obtain ⟨store, hafter, h⟩ := View.cache_cases inner.deployment now c st
  have hinner : ((watched inner).deployment.cache now c st).2.inner = store :=
    congrArg Watched.inner hafter
  rwa [hinner]

end Watched

/-! ### Where a list can be read -/

/-- What is live at the key is a list, or nothing is. -/
def HoldsNoText (now : Instant) (key : String) : (x : Setup) → x.Store → Prop
  | inMemory, _ => True
  | remote, store => store.1.HoldsNoText now key
  | watched inner, store => inner.HoldsNoText now key store.inner

/-- Commands can be sent, and there is a list at the key or nothing. -/
structure Legible (x : Setup) (now : Instant) (key : String) (st : x.Store) : Prop where
  ready : x.view.Ready st
  noText : x.HoldsNoText now key st

theorem holdsNoText_of_cell (h : x.view.cell key st' = x.view.cell key st)
    (htext : x.HoldsNoText now key st) : x.HoldsNoText now key st' := by
  induction x with
  | inMemory => trivial
  | remote => exact (Cache.ListServer.holdsNoText_congr h).mpr htext
  | watched inner ih => exact ih h htext

/-- No command to a unit of work changes that. -/
theorem Legible.users (h : x.Legible now key st) (unit : Nat) (c : Users.Command) :
    x.Legible now key (x.deployment.users unit c st).2 :=
  ⟨x.fits.ready_users unit c st h.ready,
    holdsNoText_of_cell (x.fits.cell_users unit c st key) h.noText⟩

theorem holdsNoText_cache {c : Command} (hpush : ∀ k value ttl, c ≠ .push k value ttl)
    (hready : x.view.Ready st) (htext : x.HoldsNoText now c.key st) :
    x.HoldsNoText now c.key (x.deployment.cache now c st).2 := by
  induction x with
  | inMemory => trivial
  | remote => exact Cache.Remote.holdsNoText_perform hready hpush htext
  | watched inner ih =>
    show inner.HoldsNoText now c.key ((watched inner).deployment.cache now c st).2.inner
    rcases inner_cache_watched c st with hinner | hinner <;> rw [hinner]
    · exact htext
    · exact ih hready htext

/-- Nor does a command to the cache that puts nothing in. -/
theorem Legible.cache (h : x.Legible now key st) (c : Command) (hkey : c.key = key)
    (hpush : ∀ k value ttl, c ≠ .push k value ttl) :
    x.Legible now key (x.deployment.cache now c st).2 := by
  subst hkey
  exact ⟨x.fits.ready_cache now c st h.ready, holdsNoText_cache hpush h.ready h.noText⟩

/-- Where a list was read, it could be. -/
theorem legible_of_get {entries : List String}
    (h : (x.deployment.cache now (.get key) st).1 = .ok entries) : x.Legible now key st := by
  refine ⟨ready_of_get h, ?_⟩
  induction x with
  | inMemory => trivial
  | remote => exact Cache.Remote.holdsNoText_of_get h
  | watched inner ih => exact ih (View.ok_of_cache h).1

/-- The list that was read is the one that is there. -/
theorem list_of_get {entries : List String}
    (h : (x.deployment.cache now (.get key) st).1 = .ok entries) :
    entries = (x.deployment.list now key st).1 := by
  induction x with
  | inMemory => exact (Except.ok.inj h).symm
  | remote => exact Cache.Remote.values_of_get h
  | watched inner ih => exact ih (View.ok_of_cache h).1

/-- Reading changes nothing that is stored. -/
theorem cell_get (other : String) :
    x.view.cell other (x.deployment.cache now (.get key) st).2 = x.view.cell other st := by
  induction x with
  | inMemory => rfl
  | remote => exact congrArg (·.get? other) (Cache.Remote.keys_get now key st.1)
  | watched inner ih =>
    show inner.view.cell other ((watched inner).deployment.cache now (.get key) st).2.inner = _
    rcases inner_cache_watched (.get key) st with hinner | hinner <;> rw [hinner]
    · rfl
    · exact ih

theorem list_get (other : String) :
    x.deployment.list now other (x.deployment.cache now (.get key) st).2 =
      x.deployment.list now other st :=
  x.fits.list_congr now other _ _ (cell_get other)

/-! ### Replies -/

section Replies

variable (hfront : x.view.front st' = x.view.front st) (h : x.Legible now key st)
  (h' : x.Legible now key st')
include hfront h h'

/-- **Each list is read, or the same error comes back twice.** -/
theorem replies_get :
    ((x.deployment.cache now (.get key) st).1 = .ok (x.deployment.list now key st).1 ∧
        (x.deployment.cache now (.get key) st').1 = .ok (x.deployment.list now key st').1) ∨
      ∃ e, (x.deployment.cache now (.get key) st).1 = .error e ∧
        (x.deployment.cache now (.get key) st').1 = .error e := by
  obtain ⟨hready, htext⟩ := h
  obtain ⟨hready', htext'⟩ := h'
  induction x with
  | inMemory => exact Or.inl ⟨rfl, rfl⟩
  | remote =>
    have hfaults : st'.1.faults = st.1.faults := congrArg Prod.fst hfront
    have hget := Cache.Remote.get_reply hready htext
    have hget' := Cache.Remote.get_reply hready' htext'
    rw [hfaults] at hget'
    unfold Cache.Remote.unlessRefused at hget hget'
    cases hrefused : st.1.faults.get? "LRANGE" with
    | some line =>
      rw [hrefused] at hget hget'
      exact Or.inr ⟨_, hget, hget'⟩
    | none =>
      rw [hrefused] at hget hget'
      exact Or.inl ⟨hget, hget'⟩
  | watched inner ih =>
    have hfailing : st'.failing = st.failing := congrArg Prod.fst hfront
    rw [fst_cache_watched, fst_cache_watched, hfailing]
    split
    · exact Or.inr ⟨_, rfl, rfl⟩
    · exact ih (congrArg (fun front => front.2.2) hfront) hready htext hready' htext'

/-- **A list is dropped with the same reply, whichever list it is.** -/
theorem reply_delete :
    (x.deployment.cache now (.delete key) st').1 = (x.deployment.cache now (.delete key) st).1 := by
  obtain ⟨hready, htext⟩ := h
  obtain ⟨hready', htext'⟩ := h'
  induction x with
  | inMemory => rfl
  | remote =>
    have hfaults : st'.1.faults = st.1.faults := congrArg Prod.fst hfront
    have hdelete : (Cache.Remote.perform now (.delete key) st'.1).1 =
        Cache.Remote.unlessRefused st'.1.faults "DEL" () := Cache.Remote.delete_reply hready'
    rw [hfaults] at hdelete
    exact hdelete.trans (Cache.Remote.delete_reply hready).symm
  | watched inner ih =>
    have hfailing : st'.failing = st.failing := congrArg Prod.fst hfront
    rw [fst_cache_watched, fst_cache_watched, hfailing]
    split
    · rfl
    · exact ih (congrArg (fun front => front.2.2) hfront) hready htext hready' htext'

/-- **Something is put in front with the same reply, whatever it is put in front of what.** -/
theorem reply_push (value value' : String) (seconds : Nat) :
    (x.deployment.cache now (.push key value' (some seconds)) st').1 =
      (x.deployment.cache now (.push key value (some seconds)) st).1 := by
  obtain ⟨hready, htext⟩ := h
  obtain ⟨hready', htext'⟩ := h'
  induction x with
  | inMemory => rfl
  | remote =>
    have hfaults : st'.1.faults = st.1.faults := congrArg Prod.fst hfront
    have hpush : (Cache.Remote.perform now (.push key value' (some seconds)) st'.1).1 =
        Cache.Remote.pushReply st'.1.faults seconds := Cache.Remote.push_reply hready' htext'
    rw [hfaults] at hpush
    exact hpush.trans (Cache.Remote.push_reply hready htext).symm
  | watched inner ih =>
    have hfailing : st'.failing = st.failing := congrArg Prod.fst hfront
    rw [fst_push_watched, fst_push_watched, hfailing,
      ih (congrArg (fun front => front.2.2) hfront) hready htext hready' htext']
    rfl

end Replies

/-- **One of several values that are there is taken out with the same reply as another one.** -/
theorem reply_remove (h : x.Legible now key st) (hmem : value ∈ (x.deployment.list now key st).1)
    (hmem' : value' ∈ (x.deployment.list now key st).1) :
    (x.deployment.cache now (.remove key value') st).1 =
      (x.deployment.cache now (.remove key value) st).1 := by
  obtain ⟨hready, -⟩ := h
  induction x with
  | inMemory =>
    show Except.ok (st.1.remove now key value').1 = .ok (st.1.remove now key value).1
    rw [Cache.Memory.remove_fst, Cache.Memory.remove_fst]
    exact congrArg Except.ok ((decide_eq_true hmem').trans (decide_eq_true hmem).symm)
  | remote =>
    refine (Cache.Remote.remove_reply hready hmem').trans ?_
    exact (Cache.Remote.remove_reply hready hmem).symm
  | watched inner ih =>
    rw [fst_remove_watched, fst_remove_watched, ih hmem hmem' hready]

/-- What is left when all copies of a value have been taken out. -/
theorem list_remove (h : x.Legible now key st) {removed : Bool}
    (hreply : (x.deployment.cache now (.remove key value) st).1 = .ok removed) :
    (x.deployment.list now key (x.deployment.cache now (.remove key value) st).2).1 =
      (x.deployment.list now key st).1.filter (· != value) := by
  obtain ⟨hready, -⟩ := h
  induction x generalizing removed with
  | inMemory => exact Cache.Memory.values_remove_self
  | remote => exact Cache.Remote.values_remove hready hreply
  | watched inner ih =>
    obtain ⟨hreported, hafter⟩ := View.ok_of_cache (d := inner.deployment) hreply
    obtain ⟨taken, htaken⟩ :
        ∃ taken, (inner.deployment.cache now (.remove key value) st.inner).1 = .ok taken := by
      cases hinner : (inner.deployment.cache now (.remove key value) st.inner).1 with
      | ok taken => exact ⟨taken, rfl⟩
      | error e =>
        rw [hinner] at hreported
        cases hreported
    exact (congrArg (fun store => (inner.deployment.list now key store).1) hafter).trans
      (ih htaken hready)

end Setup

end SessionAuth
