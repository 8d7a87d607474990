/-
Until when a list is kept.

Every push gives the whole list a new time to live, and nothing else changes when it
expires.  So what has happened tells until when the list is kept, as soon as something
has been pushed to it (`keptUntil`), and a list that is kept stays as it is while time
passes.
-/
import SessionAuth.Proofs.Service.Moves

namespace SessionAuth.Service

variable {n : Nat} {s : Service} {requests : Fin n → Request} {key : String}
  {past : List (Happening n)} {w : World Store} {a c : Scene Store n}

/-- The time after some happenings. -/
def timeAfter (start : Instant) : List (Happening n) → Instant
  | [] => start
  | .asked _ _ :: past => timeAfter start past
  | .waited later :: _ => later

/-- The instant at which what was pushed last expires; none if the list was dropped since. -/
def keptUntil (start : Instant) (key : String) : List (Happening n) → Option Instant
  | [] => none
  | .asked _ ⟨.cache (.push k _ (some seconds)), _⟩ :: past =>
    if k = key then some (Cache.after (timeAfter start past) seconds)
    else keptUntil start key past
  | .asked _ ⟨.cache (.delete k), _⟩ :: past =>
    if k = key then none else keptUntil start key past
  | _ :: past => keptUntil start key past

theorem Run.now_eq {b : Backend σ} {first last : Scene σ n} (hrun : Run b first past last) :
    last.world.now = timeAfter first.world.now past := by
  induction hrun with
  | start => rfl
  | @step past h a c hrun hstep ih =>
    cases hstep with
    | waits hle => rfl
    | @asks i e next reply w' hcall hreply =>
      have hsame : w'.now = a.world.now := by
        cases hreply with
        | drawn => rfl
        | handled => cases e <;> rfl
      exact hsame.trans ih

/-- As long as nobody waits, no time passes. -/
theorem timeAfter_of_asked {start : Instant} (h : ∀ h ∈ past, ∃ i x, h = .asked i x) :
    timeAfter start past = start := by
  induction past with
  | nil => rfl
  | cons newest past ih =>
    obtain ⟨i, x, rfl⟩ := h newest List.mem_cons_self
    exact ih fun h' hh => h h' (List.mem_cons_of_mem _ hh)

/-- A call that asks what time it is is told. -/
theorem Run.clock_eq {b : Backend σ} {first last : Scene σ n} {i : Fin n} {now : Instant}
    (hrun : Run b first past last) (hmem : .asked i ⟨.clock, now⟩ ∈ past) :
    ∃ older, older <:+ past ∧ now = timeAfter first.world.now older := by
  induction hrun with
  | start => cases hmem
  | @step past h a c hrun hstep ih =>
    rcases List.mem_cons.mp hmem with rfl | hmem
    · cases hstep with
      | asks hcall hreply =>
        cases hreply with
        | handled => exact ⟨past, List.suffix_cons _ _, hrun.now_eq⟩
    · obtain ⟨older, holder, hnow⟩ := ih hmem
      exact ⟨older, holder.trans (List.suffix_cons _ _), hnow⟩

/-- A push is allowed for the entry of a new session only. -/
theorem opens_of_allowsCache {q : Request} {p : Place} {raw : String} {ttl : Option Nat}
    (h : p.AllowsCache s q (.push key raw ttl)) : q.Opens s p.seen key raw ttl := by
  obtain ⟨seen, φ⟩ := p
  cases φ with
  | counting k sessions => exact h.2.2
  | cleared k => exact h.2
  | _ => exact h.elim

/-- Whatever is live expires at the instant that what has happened tells. -/
theorem Run.expires_eq (hrun : Run inMemory (s.opening requests w) past a) {until_ : Instant}
    (hkept : keptUntil w.now key past = some until_) {held : Cache.Held}
    (hlive : a.world.store.1.live? a.world.now key = some held) : held.expires = some until_ := by
  induction hrun generalizing held with
  | start => cases hkept
  | @step past h a c hrun hstep ih =>
    cases hstep with
    | waits hle =>
      rw [Cache.Memory.live?_later hle] at hlive
      exact ih hkept (Option.filter_eq_some_iff.mp hlive).1
    | @asks i e next reply w' hcall hreply =>
      cases hreply with
      | drawn => exact ih hkept hlive
      | handled =>
        cases e with
        | cache d =>
          have hallows := hrun.allows hcall
          change (Cache.Memory.perform a.world.now d a.world.store.1).2.live? a.world.now key =
            some held at hlive
          cases d with
          | get k => exact ih hkept hlive
          | push k raw ttl =>
            obtain ⟨_, _, _, seconds, _, _, _, _, rfl, hseconds⟩ := opens_of_allowsCache hallows
            change (a.world.store.1.push _ k raw (some seconds)).live? _ key = _ at hlive
            change (if k = key then _ else _) = _ at hkept
            by_cases hk : k = key
            · subst hk
              rw [Cache.Memory.live?_push_self hseconds] at hlive
              have hnow : a.world.now = timeAfter w.now past := hrun.now_eq
              rw [if_pos rfl, ← hnow] at hkept
              cases hlive
              exact hkept
            · rw [Cache.Memory.live?_push_ne fun h => hk h.symm] at hlive
              rw [if_neg hk] at hkept
              exact ih hkept hlive
          | remove k raw =>
            change (a.world.store.1.remove _ k raw).2.live? _ key = _ at hlive
            by_cases hk : k = key
            · subst hk
              rw [Cache.Memory.live?_remove_self] at hlive
              obtain ⟨before, hbefore, hkeeps⟩ := Option.bind_eq_some_iff.mp hlive
              split at hkeeps
              · cases hkeeps
              · cases hkeeps
                have hexpires := ih hkept hbefore
                exact hexpires
            · rw [Cache.Memory.live?_remove_ne fun h => hk h.symm] at hlive
              exact ih hkept hlive
          | delete k =>
            change (Cache.Memory.mk (a.world.store.1.lists.erase k)).live? _ key = _ at hlive
            change (if k = key then none else _) = _ at hkept
            by_cases hk : k = key
            · rw [if_pos hk] at hkept
              cases hkept
            · rw [Cache.Memory.live?_erase_ne fun h => hk h.symm] at hlive
              rw [if_neg hk] at hkept
              exact ih hkept hlive
        | users d => exact ih hkept hlive
        | clock => exact ih hkept hlive
        | random count => exact ih hkept hlive
        | log event => exact ih hkept hlive

/-- A list whose time is over is gone. -/
theorem Run.sessions_eq_nil (hrun : Run inMemory (s.opening requests w) past a) {until_ : Instant}
    (hkept : keptUntil w.now key past = some until_)
    (hover : until_.nanos ≤ a.world.now.nanos) : sessions a.world key = [] := by
  unfold sessions Cache.Memory.values
  cases hlive : a.world.store.1.live? a.world.now key with
  | none => rfl
  | some held =>
    exfalso
    have hcounts := Cache.Memory.isLive_of_live? hlive
    unfold Cache.Held.isLive at hcounts
    rw [hrun.expires_eq hkept hlive] at hcounts
    simp only [decide_eq_true_eq] at hcounts
    omega

/-- A list that is kept stays as it is while time passes. -/
theorem Run.sessions_waited_eq (hrun : Run inMemory (s.opening requests w) past a)
    {until_ later : Instant} (hkept : keptUntil w.now key past = some until_)
    (hstep : Scene.Step inMemory a (.waited later) c) (hnot : later.nanos < until_.nanos) :
    sessions c.world key = sessions a.world key := by
  cases hstep with
  | waits hle =>
    refine Cache.Memory.values_later_of_isLive hle fun held hlive => ?_
    unfold Cache.Held.isLive
    rw [hrun.expires_eq hkept hlive]
    exact decide_eq_true hnot

end SessionAuth.Service
