/-
The lists that two runs find and leave.

Two runs that begin in one and the same world stay in one world (`Setup.Still`) until a session
is taken out of the list or put in.  From there on the lists may differ, in which sessions they
hold, and nothing else does: as long as a list can be read in both worlds
(`Setup.BothLegible`), what is asked of the cache is replied alike.

How long a list is, is told only to a call that reads it and reports that it has reached the cap.
So a session is added alike where the same number of sessions would be reported, or none
(`Setup.EquallyFull`).
-/
import SessionAuth.Proofs.Deployment.Legible
import SessionAuth.Proofs.Service.Tandem

namespace SessionAuth

open Session (Registry)

variable {α : Type} {x : Setup} {unit : Nat} {mishaps : Nat → Option Mishap}

/-! ### What is reported of a list -/

namespace Session.Registry

variable {r : Registry}

/-- The number of sessions that is reported when one more is added, if it is. -/
def reported? (r : Registry) (sessions : Nat) : Option Nat :=
  if r.maxSessions ≤ sessions then some sessions else none

/-- The same sessions would be reported of two lists: then both reach the cap or neither does. -/
theorem reported?_eq_iff {sessions sessions' : Nat} :
    r.reported? sessions' = r.reported? sessions ↔
      sessions' = sessions ∨ sessions < r.maxSessions ∧ sessions' < r.maxSessions := by
  unfold reported?
  split <;> split <;> simp <;> omega

end Session.Registry

/-! ### The same world twice -/

namespace Setup

variable {start w w' : World x.Store}

/-- Both runs are in one world, and users and lists are what they were at the start. -/
structure Still (x : Setup) (start w w' : World x.Store) : Prop where
  same : w' = w
  now : w.now = start.now
  front : x.view.front w.store = x.view.front start.store
  list : ∀ key, x.deployment.list start.now key w.store =
    x.deployment.list start.now key start.store

theorem Still.refl (start : World x.Store) : x.Still start start start :=
  ⟨rfl, rfl, rfl, fun _ => rfl⟩

theorem Still.butForLists (h : x.Still start w w') : x.ButForLists unit w w' := by
  obtain ⟨rfl, _, _, _⟩ := h
  exact .refl w'

theorem Still.keeps : x.Keeps unit (x.Still start) := by
  refine ⟨?_, fun _ _ h => h.butForLists⟩
  rintro e huncached w _ ⟨rfl, hnow, hfront, hlist⟩
  cases e with
  | cache c => exact absurd rfl (huncached c)
  | users c =>
    exact ⟨rfl, rfl, hnow, (x.fits.front_users unit c _).trans hfront,
      fun key => (list_users c).trans (hlist key)⟩
  | clock => exact ⟨rfl, rfl, hnow, hfront, hlist⟩
  | random count => exact ⟨rfl, rfl, hnow, hfront, hlist⟩
  | log event => exact ⟨rfl, rfl, hnow, hfront, hlist⟩

namespace Tandem

/-- In one world a call is in tandem with itself. -/
theorem refl (call : Call α) :
    x.Tandem unit mishaps (fun w w' => w' = w) call call (Same fun w w' => w' = w) := by
  rintro _ w n rfl
  generalize Program.run (x.deployment.attempts unit mishaps) call.run (w, n) = last
  obtain ⟨result, later, m⟩ := last
  cases result with
  | ok value => exact .ok ⟨rfl, rfl⟩
  | error e => exact .error (.refl later)

/-- The clock shows what it showed at the start. -/
theorem clock_still : x.Tandem unit mishaps (x.Still start) Call.clock Call.clock
    (fun now now' w w' => now = start.now ∧ now' = start.now ∧ x.Still start w w') := by
  intro w w' n hw
  obtain ⟨rfl, hnow, _, _⟩ := id hw
  exact .ok ⟨hnow, hnow, hw⟩

/-- A look-up is answered from the table of users as it was at the start. -/
theorem users_still (c : Users.Command) {F : c.Reply → Prop}
    (hF : ∀ st reply, x.view.front st = x.view.front start.store →
      (x.deployment.users unit c st).1 = .ok reply → F reply) :
    x.Tandem unit mishaps (x.Still start) (Call.users c) (Call.users c)
      (fun reply reply' w w' => reply' = reply ∧ F reply ∧ x.Still start w w') := by
  refine lookUp (fun _ _ h => h.butForLists) (fun _ _ _ _ h => h.2.2.butForLists) ?_
  intro w w' hw n
  have hafter : x.Still start (x.deployment.handle unit (.users c) w).2
      (x.deployment.handle unit (.users c) w').2 :=
    (Still.keeps.request (.users c) (fun _ => nofun) w w' hw).2
  obtain ⟨rfl, _, hfront, _⟩ := id hw
  cases hreply : (x.deployment.users unit c w'.store).1 with
  | ok reply => exact .ok ⟨rfl, hF _ reply hfront hreply, hafter⟩
  | error e => exact .error hafter.butForLists

end Tandem

end Setup

/-! ### Two worlds with different lists -/

namespace Setup

variable {start w w' : World x.Store} {key : String}

/-- The worlds differ in what is stored in the cache only, and a list can be read in both. -/
structure BothLegible (x : Setup) (unit : Nat) (key : String) (w w' : World x.Store) : Prop
    extends x.ButForLists unit w w' where
  legible : x.Legible w.now key w.store
  legible' : x.Legible w.now key w'.store

theorem BothLegible.keeps : x.Keeps unit (x.BothLegible unit key) := by
  refine ⟨?_, fun _ _ h => h.toButForLists⟩
  intro e huncached w w' hw
  obtain ⟨hreply, hafter⟩ := ButForLists.keeps.request e huncached w w' hw.toButForLists
  refine ⟨hreply, hafter, ?_, ?_⟩
  · cases e with
    | cache c => exact absurd rfl (huncached c)
    | users c => exact hw.legible.users unit c
    | clock | random count | log event => exact hw.legible
  · cases e with
    | cache c => exact absurd rfl (huncached c)
    | users c => exact hw.legible'.users unit c
    | clock | random count | log event => exact hw.legible'

/-- Commands about lists make no other difference. -/
theorem BothLegible.cache (h : x.BothLegible unit key w w') (c c' : Cache.Command) :
    x.ButForLists unit (x.deployment.handle unit (.cache c) w).2
      (x.deployment.handle unit (.cache c') w').2 where
  now := h.now
  entropy := h.entropy
  events := h.events
  front := (x.fits.front_cache _ c' _ h.legible'.ready).trans
    (h.front.trans (x.fits.front_cache _ c _ h.legible.ready).symm)
  isOpen := (x.fits.isOpen_cache _ c' _ unit).trans
    (h.isOpen.trans (x.fits.isOpen_cache _ c _ unit).symm)

/-- After all but pushes a list can be read again. -/
theorem BothLegible.again (h : x.BothLegible unit key w w') (c c' : Cache.Command)
    (hkey : c.key = key) (hkey' : c'.key = key) (hpush : ∀ k value ttl, c ≠ .push k value ttl)
    (hpush' : ∀ k value ttl, c' ≠ .push k value ttl) :
    x.BothLegible unit key (x.deployment.handle unit (.cache c) w).2
      (x.deployment.handle unit (.cache c') w').2 := by
  refine ⟨h.cache c c', h.legible.cache c hkey hpush, ?_⟩
  show x.Legible w.now key (x.deployment.cache w'.now c' w'.store).2
  rw [h.now]
  exact h.legible'.cache c' hkey' hpush'

/-- As many sessions would be reported in both worlds if one more were added. -/
def EquallyFull (x : Setup) (unit : Nat) (r : Registry) (key : String) (w w' : World x.Store) :
    Prop :=
  w' = w ∨ x.BothLegible unit key w w' ∧
    r.reported? (x.deployment.list w.now key w'.store).1.length =
      r.reported? (x.deployment.list w.now key w.store).1.length

variable {r : Registry}

theorem EquallyFull.keeps : x.Keeps unit (x.EquallyFull unit r key) := by
  constructor
  · rintro e huncached w w' (rfl | ⟨hboth, hsizes⟩)
    · exact ⟨rfl, Or.inl rfl⟩
    · obtain ⟨hreply, hafter⟩ := BothLegible.keeps.request e huncached w w' hboth
      refine ⟨hreply, Or.inr ⟨hafter, ?_⟩⟩
      cases e with
      | cache c => exact absurd rfl (huncached c)
      | users c =>
        have hlist : ∀ st, x.deployment.list w.now key (x.deployment.users unit c st).2 =
            x.deployment.list w.now key st := fun _ => list_users c
        exact (congrArg (r.reported? ·.1.length) (hlist w'.store)).trans
          (hsizes.trans (congrArg (r.reported? ·.1.length) (hlist w.store)).symm)
      | clock | random count | log event => exact hsizes
  · rintro w w' (rfl | ⟨hboth, _⟩)
    · exact .refl w'
    · exact hboth.toButForLists

namespace Tandem

/-- Lists are read of which as many sessions would be reported. -/
theorem readList_equallyFull :
    x.Tandem unit mishaps (x.EquallyFull unit r key) (Call.readList key) (Call.readList key)
      (fun entries entries' w w' => r.reported? entries'.length = r.reported? entries.length ∧
        x.BothLegible unit key w w') := by
  refine Tandem.cache (.get key) (.get key) EquallyFull.keeps.butForLists
    (fun _ _ _ _ h => h.2.toButForLists) ?_
  rintro w w' (rfl | ⟨hboth, hsizes⟩) n
  · cases hreply : (x.deployment.cache w'.now (.get key) w'.store).1 with
    | ok entries =>
      have hlegible := (legible_of_get hreply).cache (.get key) rfl (by simp)
      exact .ok ⟨rfl, .refl _, hlegible, hlegible⟩
    | error e => exact .error (.refl _)
  · have hafter := hboth.again (.get key) (.get key) rfl rfl (by simp) (by simp)
    have hreplies := replies_get hboth.front hboth.legible hboth.legible'
    rw [hboth.now]
    rcases hreplies with ⟨hreply, hreply'⟩ | ⟨e, hreply, hreply'⟩
    · rw [hreply, hreply']
      exact .ok ⟨hsizes, hafter⟩
    · rw [hreply, hreply']
      exact .error hafter.toButForLists

theorem dropList_tandem :
    x.Tandem unit mishaps (x.BothLegible unit key) (Call.dropList key) (Call.dropList key)
      (Same (x.BothLegible unit key)) := by
  refine Tandem.cache (.delete key) (.delete key) (fun _ _ h => h.toButForLists)
    (fun _ _ _ _ h => h.2.toButForLists) ?_
  intro w w' hboth n
  have hafter := hboth.again (.delete key) (.delete key) rfl rfl (by simp) (by simp)
  rw [hboth.now, reply_delete hboth.front hboth.legible hboth.legible']
  cases (x.deployment.cache w.now (.delete key) w.store).1 with
  | ok done => exact .ok ⟨rfl, hafter⟩
  | error e => exact .error hafter.toButForLists

/-- One value is pushed like another one. -/
theorem pushTo_tandem (value value' : String) (seconds : Nat) :
    x.Tandem unit mishaps (x.BothLegible unit key) (Call.pushTo key value seconds)
      (Call.pushTo key value' seconds) (Same (x.ButForLists unit)) := by
  refine Tandem.cache (.push key value (some seconds)) (.push key value' (some seconds))
    (fun _ _ h => h.toButForLists) (fun _ _ _ _ h => h.2) ?_
  intro w w' hboth n
  have hafter := hboth.cache (.push key value (some seconds)) (.push key value' (some seconds))
  rw [hboth.now, reply_push hboth.front hboth.legible hboth.legible' value value' seconds]
  generalize (x.deployment.cache w.now (.push key value (some seconds)) w.store).1 = reply
  cases reply with
  | ok done => exact .ok ⟨rfl, hafter⟩
  | error e => exact .error hafter

/-- The list is read that has been there from the start. -/
theorem readList_still :
    x.Tandem unit mishaps (x.Still start) (Call.readList key) (Call.readList key)
      (fun entries entries' w w' => entries' = entries ∧
        entries = (x.deployment.list start.now key start.store).1 ∧
        x.Still start w w' ∧ x.Legible w.now key w.store) := by
  refine Tandem.cache (.get key) (.get key) (fun _ _ h => h.butForLists)
    (fun _ _ _ _ h => h.2.2.1.butForLists) ?_
  rintro _ w ⟨rfl, hnow, hfront, hlist⟩ n
  cases hreply : (x.deployment.cache w.now (.get key) w.store).1 with
  | error e => exact .error (.refl _)
  | ok entries =>
    have hlegible := legible_of_get hreply
    refine .ok ⟨rfl, ?_, ⟨rfl, hnow, ?_, ?_⟩, hlegible.cache (.get key) rfl (by simp)⟩
    · rw [list_of_get hreply, hnow, hlist]
    · exact (x.fits.front_cache w.now (.get key) w.store hlegible.ready).trans hfront
    · intro other
      refine Eq.trans ?_ (hlist other)
      rw [← hnow]
      exact list_get other

/-- Two values that are there are taken out alike, each with all of its copies. -/
theorem removeFrom_tandem {value value' : String} {entries : List String}
    (hentries : entries = (x.deployment.list start.now key start.store).1)
    (hmem : value ∈ entries) (hmem' : value' ∈ entries) :
    x.Tandem unit mishaps (fun w w' => x.Still start w w' ∧ x.Legible w.now key w.store)
      (Call.removeFrom key value) (Call.removeFrom key value')
      (fun removed removed' w w' => removed' = removed ∧ x.BothLegible unit key w w' ∧
        (x.deployment.list w.now key w.store).1 = entries.filter (· != value) ∧
        (x.deployment.list w.now key w'.store).1 = entries.filter (· != value')) := by
  refine Tandem.cache (.remove key value) (.remove key value')
    (fun _ _ h => h.1.butForLists) (fun _ _ _ _ h => h.2.1.toButForLists) ?_
  rintro _ w ⟨⟨rfl, hnow, _, hlist⟩, hlegible⟩ n
  have hthere : (x.deployment.list w.now key w.store).1 = entries := by
    rw [hnow, hlist, hentries]
  have hboth : x.BothLegible unit key w w := ⟨.refl w, hlegible, hlegible⟩
  have hafter := hboth.again (.remove key value) (.remove key value') rfl rfl (by simp)
    (by simp)
  rw [← hthere] at hmem hmem' ⊢
  have hsame := reply_remove hlegible hmem hmem'
  cases hreply : (x.deployment.cache w.now (.remove key value) w.store).1 with
  | error e =>
    rw [hsame, hreply]
    exact .error hafter.toButForLists
  | ok removed =>
    have hlist := list_remove hlegible hreply
    have hlist' := list_remove hlegible (hsame.trans hreply)
    rw [hsame, hreply]
    exact .ok ⟨rfl, hafter, hlist, hlist'⟩

end Tandem

end Setup

end SessionAuth
