/-
How long the list of a user gets.

A call that adds a session reads the list first, and acts on what it read when others
may have added sessions as well.  So the list can become longer than allowed, and the
question is by how much.

A call that has read the list and has not yet added its session is adding.  Among those
the ones count that will push without dropping the list before: a call that read a list
with room, and a call that has dropped the list already.  The length of the list
together with their number is what never gets too large.  It only grows when a call
reads a list that has room, and right then the list is shorter than allowed and the rest
is bounded by the number of calls that are adding.
-/
import SessionAuth.Proofs.Service.Schedule
import Mathlib.Algebra.BigOperators.Fin

namespace SessionAuth.Service

variable {n : Nat} {s : Service} {requests : Fin n → Request} {past : List (Happening n)}

/-! ### Counting calls -/

/-- How many calls are in a phase of some kind. -/
def tally (s : Service) (requests : Fin n → Request) (kind : Phase → Bool)
    (past : List (Happening n)) : Nat :=
  (Finset.univ.filter fun i => kind (s.place requests i past).phase = true).card

/-- Fewer calls are in a phase of a narrower kind. -/
theorem tally_le {kind wider : Phase → Bool} (h : ∀ φ, kind φ = true → wider φ = true) :
    s.tally requests kind past ≤ s.tally requests wider past := by
  refine Finset.card_le_card fun i hi => ?_
  rw [Finset.mem_filter] at hi ⊢
  exact ⟨hi.1, h _ hi.2⟩

/-- Before anything has happened no call is in a phase that is not the first one. -/
theorem tally_nil {kind : Phase → Bool} (h : kind .arriving = false) :
    s.tally requests kind [] = 0 := by
  rw [tally, Finset.card_eq_zero, Finset.filter_eq_empty_iff]
  intro i _
  rw [place_nil]
  simp [Place.start, h]

/-- The number is made up of one call and the others. -/
theorem tally_eq_add (kind : Phase → Bool) (i : Fin n) (past : List (Happening n)) :
    s.tally requests kind past = (kind (s.place requests i past).phase).toNat +
      ∑ j ∈ Finset.univ.erase i, if kind (s.place requests j past).phase = true then 1 else 0 := by
  have hone : ∀ b : Bool, (if b = true then 1 else 0) = b.toNat := by decide
  rw [tally, Finset.card_filter, ← Finset.add_sum_erase Finset.univ _ (Finset.mem_univ i), hone]

/-- When one call moves on, it is the only one whose phase is counted anew. -/
theorem tally_asked {kind : Phase → Bool} (i : Fin n) (x : Asked) :
    s.tally requests kind (.asked i x :: past) + (kind (s.place requests i past).phase).toNat =
      s.tally requests kind past +
        (kind (s.place requests i (.asked i x :: past)).phase).toNat := by
  have hothers : ∀ j ∈ Finset.univ.erase i,
      (if kind (s.place requests j (.asked i x :: past)).phase = true then 1 else 0) =
        if kind (s.place requests j past).phase = true then 1 else 0 := by
    intro j hj
    rw [place_asked_ne fun h => Finset.ne_of_mem_erase hj h.symm]
  rw [tally_eq_add kind i (.asked i x :: past), tally_eq_add kind i past,
    Finset.sum_congr rfl hothers]
  omega

/-! ### Calls that are adding a session -/

/-- The call has read the list at a key to add a session, and has not yet added it. -/
def Phase.isAdding (key : String) : Phase → Bool
  | counting k _ => k == key
  | cleared k => k == key
  | _ => false

/-- The next command of the call to the list at a key is the push. -/
def Phase.isPushing (key : String) (maxSessions : Nat) : Phase → Bool
  | counting k sessions => k == key && sessions < maxSessions
  | cleared k => k == key
  | _ => false

theorem Phase.isAdding_of_isPushing {key : String} {maxSessions : Nat} {φ : Phase}
    (h : φ.isPushing key maxSessions = true) : φ.isAdding key = true := by
  cases φ <;> simp_all [isPushing, isAdding]

/-- A phase at another list is not adding to this one. -/
theorem Phase.isPushing_of_key?_ne {key : String} {maxSessions : Nat} {φ : Phase}
    (h : φ.key? ≠ some key) : φ.isPushing key maxSessions = false := by
  cases φ <;> simp_all [isPushing, key?]

/-- How many calls are adding a session to the list at a key. -/
def adding (s : Service) (requests : Fin n → Request) (key : String)
    (past : List (Happening n)) : Nat :=
  s.tally requests (Phase.isAdding key) past

/-- No more calls are adding than there are. -/
theorem adding_le (key : String) (past : List (Happening n)) : s.adding requests key past ≤ n := by
  have hcard := Finset.card_le_univ (Finset.univ.filter fun i =>
    (s.place requests i past).phase.isAdding key = true)
  rwa [Fintype.card_fin] at hcard

/-! ### The bound -/

/--
A step of a call keeps the bound, if no more than `k` calls are adding after it.  The
numbers of pushing calls before and afterwards differ by the two phases of this call.
-/
theorem Move.length_add_pushing_le {q : Request} {key : String} {p : Place} {l l' : List String}
    {x : Asked} {φ : Phase} {k before after : Nat} (h : Move s q key p l x φ l')
    (hmax : 1 ≤ s.registry.maxSessions)
    (htally : after + (p.phase.isPushing key s.registry.maxSessions).toNat =
      before + (φ.isPushing key s.registry.maxSessions).toNat) (hk : after ≤ k)
    (hbound : l.length + before ≤ s.registry.maxSessions + k - 1) :
    l'.length + after ≤ s.registry.maxSessions + k - 1 := by
  cases h with
  | aside hx => omega
  | elsewhere hc hbefore hafter =>
    rw [Phase.isPushing_of_key?_ne hbefore, Phase.isPushing_of_key?_ne hafter] at htally
    omega
  | search hq habout => simp [Phase.isPushing] at htally; omega
  | countFirst hq habout | countAgain hq =>
    -- With room in the list there is one more pushing call, and the bound is that on `after`.
    by_cases hroom : l.length < s.registry.maxSessions
    · omega
    · simp [Phase.isPushing, hroom] at htally
      omega
  | @take _ _ _ raw hfind hmem =>
    have hlength := List.length_filter_le (· != raw) l
    simp [Phase.isPushing] at htally
    omega
  | miss hfind hmem => simp [Phase.isPushing] at htally; omega
  | dropUnfound hq hentries hfind => simp [Phase.isPushing] at htally; simp; omega
  | dropMissed hq => simp [Phase.isPushing] at htally; simp; omega
  | clear hfull => simp; omega
  | addBelow hroom hopens =>
    simp [Phase.isPushing, hroom] at htally
    rw [List.length_cons]
    omega
  | addCleared hopens =>
    simp [Phase.isPushing] at htally
    rw [List.length_cons]
    omega

/--
**The list of a user is longer than allowed by less than the largest number of calls that
were adding a session at the same time.**
-/
theorem sessions_length_le (user : UserId) {w : World Store} {a : Scene Store n} {k : Nat}
    (hmax : 1 ≤ s.registry.maxSessions) (hk : 1 ≤ k)
    (hstart : (sessions w (Session.Registry.key user)).length ≤ s.registry.maxSessions)
    (hrun : Run inMemory (s.opening requests w) past a)
    (hadding : ∀ older, older <:+ past →
      s.adding requests (Session.Registry.key user) older ≤ k) :
    (sessions a.world (Session.Registry.key user)).length ≤ s.registry.maxSessions + k - 1 := by
  have hbound := hrun.invariant (Session.Registry.key user)
    (P := fun past l => (∀ older, older <:+ past →
        s.adding requests (Session.Registry.key user) older ≤ k) →
      l.length + s.tally requests
        (Phase.isPushing (Session.Registry.key user) s.registry.maxSessions) past ≤
          s.registry.maxSessions + k - 1)
    ?start ?move ?wait
  case start =>
    intro _
    rw [tally_nil rfl]
    omega
  case move =>
    intro past l i x l' ih hmove hadding
    have hpushing : s.tally requests (Phase.isPushing _ s.registry.maxSessions) _ ≤ k :=
      (tally_le fun _ => Phase.isAdding_of_isPushing).trans (hadding _ (List.suffix_refl _))
    refine hmove.length_add_pushing_le hmax (tally_asked i x) hpushing (ih fun older holder => ?_)
    exact hadding older (holder.trans (List.suffix_cons _ _))
  case wait =>
    intro past l later l' ih hl' hadding
    have hbefore := ih fun older holder => hadding older (holder.trans (List.suffix_cons _ _))
    show _ + s.tally requests _ past ≤ _
    rcases hl' with rfl | rfl
    · exact hbefore
    · simp only [List.length_nil]
      omega
  have := hbound hadding
  omega

theorem sessions_length_le_logins : ∃ past a,
    Run inMemory ((Sample.service 1).opening (fun _ : Fin 2 => Sample.login) Sample.world) past a ∧
    (∀ i, ∃ tokens, a.calls i = .done (.ok (some tokens))) ∧
    (sessions a.world (Session.Registry.key Sample.ada.id)).length ≤ 1 + 2 - 1 := by
  have hstart : Run inMemory ((Sample.service 1).opening (fun _ : Fin 2 => Sample.login)
    Sample.world) [] ((Sample.service 1).opening (fun _ => Sample.login) Sample.world) := .start
  obtain ⟨tokens, w₁, hfirst, _, hsettled⟩ :=
    Sample.login_ok 1 (0 : Fin 2) (w := Sample.world) rfl rfl
  obtain ⟨past₁, hrun₁⟩ := hstart.alone (i := 0) rfl hfirst
  obtain ⟨tokens', w₂, hsecond, _⟩ :=
    Sample.login_ok 1 (1 : Fin 2) hsettled.users hsettled.now
  obtain ⟨past₂, hrun₂⟩ := hrun₁.alone (i := 1) (Scene.moved_ne (by decide) _ _) hsecond
  refine ⟨_, _, hrun₂, Fin.forall_fin_two.mpr ⟨⟨tokens, ?_⟩, ⟨tokens', ?_⟩⟩, ?_⟩
  · exact (Scene.moved_ne (by decide) _ _).trans (Scene.moved_self _ _)
  · exact Scene.moved_self _ _
  · have hmax : 1 ≤ (Sample.service 1).registry.maxSessions := Nat.le_refl 1
    have hnone : (sessions Sample.world (Session.Registry.key Sample.ada.id)).length ≤ 1 :=
      Nat.zero_le 1
    exact sessions_length_le Sample.ada.id hmax (by decide) hnone hrun₂
      fun older _ => adding_le _ older

end SessionAuth.Service
