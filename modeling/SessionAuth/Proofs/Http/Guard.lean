/-
Whom the guard lets through.

What stands in the header is a grammar (`Request.Presents`): a scheme in any letter case, a
blank, and a token, with blanks around it that do not count.  A request is let through exactly
if the token is an access token of a user and the statements of one transaction succeed
(`Guard.Decides.admits`), and the protected handler then knows the user's id and login.
Everything else ends in one of two responses.  A refused statement that was reached is a failure
of the server, and all other reasons to turn a request away are told alike.
-/
import SessionAuth.Proofs.Http.Answer
import SessionAuth.Proofs.Http.Header
import SessionAuth.Proofs.Http.Rejection
import SessionAuth.Proofs.Service.Authentication
import SessionAuth.Proofs.Text.Cut

namespace SessionAuth.Http

open Service (Succeeds Transacting overDatabase overTable)

/-! ### The header -/

/-- The first header of its name holds a scheme that is `bearer`, a blank and this token. -/
def Request.Presents (r : Request) (token : String) : Prop :=
  ∃ value scheme rest, (r.values "authorization").head? = some value ∧ (∀ b ∈ value, IsPlain b) ∧
    Text.trim Text.isBlank (value.map fun b => Char.ofNat b.toNat) = scheme ++ ' ' :: rest ∧
    Text.sameLetters scheme "bearer".toList = true ∧
    Text.trim Text.isBlank rest = token.toList ∧ token ≠ ""

/-- No letter case of the scheme has a blank in it. -/
theorem blank_notMem_scheme {scheme : List Char}
    (h : Text.sameLetters scheme "bearer".toList = true) : ' ' ∉ scheme := by
  intro hmem
  unfold Text.sameLetters at h
  have hlower : ' '.toLower ∈ scheme.map Char.toLower := List.mem_map_of_mem hmem
  rw [eq_of_beq h] at hlower
  revert hlower
  decide

/-- A text is read as scheme and token in one way. -/
theorem bearerToken?_eq_some_iff {text : List Char} {token : String} :
    bearerToken? text = some token ↔
      ∃ scheme rest, Text.trim Text.isBlank text = scheme ++ ' ' :: rest ∧
        Text.sameLetters scheme "bearer".toList = true ∧
        Text.trim Text.isBlank rest = token.toList ∧ token ≠ "" := by
  unfold bearerToken?
  constructor
  · intro h
    split at h
    · cases h
    · rename_i scheme rest hcut
      dsimp only at h
      split at h
      · rename_i hbearer
        cases h
        refine ⟨scheme, rest, ?_, hbearer.1, (String.toList_ofList).symm, ?_⟩
        · simpa using (Text.append_of_cutAt? hcut).symm
        · intro hempty
          refine hbearer.2 ?_
          rw [← String.toList_ofList (l := Text.trim Text.isBlank rest), hempty]
          rfl
      · cases h
  · rintro ⟨scheme, rest, htext, hscheme, hrest, htoken⟩
    have hne : token.toList ≠ [] := fun hempty => htoken (String.toList_eq_nil_iff.mp hempty)
    rw [htext, Text.cutAt?_append_cons (blank_notMem_scheme hscheme)]
    dsimp only
    rw [hrest, if_pos ⟨hscheme, hne⟩, String.ofList_toList]

/-- **The token is read from the header by the grammar.** -/
theorem bearer?_eq_some_iff {r : Request} {token : String} :
    r.bearer? = some token ↔ r.Presents token := by
  unfold Request.bearer? Request.text? Request.Presents
  simp only [Option.bind_eq_some_iff, readable?_eq_some_iff, bearerToken?_eq_some_iff]
  constructor
  · rintro ⟨_, ⟨value, hvalue, hplain, rfl⟩, scheme, rest, h⟩
    exact ⟨value, scheme, rest, hvalue, hplain, h⟩
  · rintro ⟨value, scheme, rest, hvalue, hplain, h⟩
    exact ⟨_, ⟨value, hvalue, hplain, rfl⟩, scheme, rest, h⟩

/-- A token that was made is presented behind the word `Bearer`. -/
theorem presents_of_allVisible {r : Request} {token : String} (h : AllVisible token)
    (hne : token ≠ "")
    (hheader : (r.values "authorization").head? = some (Bytes.ofText ("Bearer " ++ token))) :
    r.Presents token := by
  have hchars : ("Bearer " ++ token).toList = "Bearer".toList ++ ' ' :: token.toList := by
    rw [String.toList_append]
    rfl
  have hword : ("Bearer ".toList.all fun c => decide (32 ≤ c.toNat ∧ c.toNat ≤ 126)) = true := by
    decide
  have hprintable : AllPrintable ("Bearer " ++ token) :=
    .append (fun c hc => of_decide_eq_true (List.all_eq_true.mp hword c hc)) (.of_visible h)
  obtain ⟨hplain, hread⟩ := readable?_eq_some_iff.mp (readable?_ofText hprintable)
  refine ⟨_, "Bearer".toList, token.toList, hheader, hplain, ?_, by decide, trim_of_visible h, hne⟩
  rw [hread, hchars]
  refine trim_of_ends (fun c hc => ?_) fun c hc => ?_
  · cases hc
    decide
  · have htoken : token.toList ≠ [] := fun hempty => hne (String.toList_eq_nil_iff.mp hempty)
    rw [List.getLast?_append_cons, List.getLast?_cons, List.getLast?_eq_some_getLast htoken] at hc
    obtain rfl := Option.some.inj hc
    exact h _ (List.getLast_mem htoken)

/-! ### The outcome -/

variable {σ : Type} {b : Backend σ} {s : Service} {w w₁ : World σ} {r : Request}
  {verdict : Users.StatementKind → Except AuthError Unit} {users : List User} {who : Identity}

/-- The request presents an access token that is accepted and names this user of the table. -/
def Admits (s : Service) (users : List User) (now : Instant) (r : Request) (who : Identity) : Prop :=
  ∃ token user, r.Presents token ∧ s.Resolves users now token .access user ∧
    who = ⟨user.id, user.login⟩

/-- A statement is refused that the presented token comes to. -/
def Interrupted (s : Service) (verdict : Users.StatementKind → Except AuthError Unit)
    (users : List User) (now : Instant) (r : Request) : Prop :=
  ∃ token e, r.Presents token ∧ s.Refused verdict users now token .access e

/-- What identifying a request comes to. -/
def identification (s : Service) (verdict : Users.StatementKind → Except AuthError Unit)
    (users : List User) (now : Instant) (r : Request) : Except AuthError Identity :=
  match r.bearer? with
  | none => .error .unauthorized
  | some token =>
    match s.authentication verdict users now token .access with
    | .ok user => .ok ⟨user.id, user.login⟩
    | .error e => .error (Guard.visible e)

theorem runCall_identify (h : Transacting b w.store verdict users) (r : Request) :
    (b.runCall (Guard.identify s r) w).1 = identification s verdict users w.now r := by
  unfold Guard.identify identification
  cases r.bearer? with
  | none => rfl
  | some token =>
    dsimp only
    rw [Backend.runCall_bind_of_ok (Backend.runCall_lift _ w),
      Service.runCall_authenticate h token .access]
    cases s.authentication verdict users w.now token .access <;> rfl

/-- The refusals of statements are failures of the server. -/
def Blames (verdict : Users.StatementKind → Except AuthError Unit) : Prop :=
  ∀ kind e, verdict kind = .error e → e.isServerError = true

theorem identification_of_admits (hall : Succeeds verdict) {now : Instant}
    (h : Admits s users now r who) : identification s verdict users now r = .ok who := by
  obtain ⟨token, user, hpresents, hresolves, rfl⟩ := h
  unfold identification
  rw [bearer?_eq_some_iff.mpr hpresents]
  dsimp only
  rw [Service.authentication_of_resolves hall hresolves]

theorem identification_of_interrupted (hblames : Blames verdict) {now : Instant}
    (h : Interrupted s verdict users now r) :
    ∃ e, e.isServerError = true ∧ identification s verdict users now r = .error e := by
  obtain ⟨token, e, hpresents, hrefused⟩ := h
  obtain ⟨kind, hkind⟩ := hrefused.exists_verdict
  have hserver := hblames kind e hkind
  refine ⟨e, hserver, ?_⟩
  unfold identification
  rw [bearer?_eq_some_iff.mpr hpresents]
  dsimp only
  rw [Service.authentication_of_refused hrefused]
  exact congrArg Except.error (if_pos hserver)

/-- Where no statement is refused, nobody is interrupted. -/
theorem not_interrupted (hquiet : ∀ kind, verdict kind = .ok ()) {now : Instant} :
    ¬ Interrupted s verdict users now r := by
  rintro ⟨token, e, _, hrefused⟩
  obtain ⟨kind, hkind⟩ := hrefused.exists_verdict
  cases (hquiet kind).symm.trans hkind

/-- **There is nothing in between**: who is neither let through nor interrupted is unauthorized. -/
theorem identification_cases (s : Service) (verdict : Users.StatementKind → Except AuthError Unit)
    (users : List User) (now : Instant) (r : Request) :
    (Succeeds verdict ∧ ∃ who, Admits s users now r who) ∨ Interrupted s verdict users now r ∨
      identification s verdict users now r = .error .unauthorized := by
  cases hbearer : r.bearer? with
  | none =>
    refine Or.inr (Or.inr ?_)
    unfold identification
    rw [hbearer]
  | some token =>
    have hpresents := bearer?_eq_some_iff.mp hbearer
    rcases Service.authentication_cases s verdict users now token .access with
      ⟨user, hall, hresolves⟩ | ⟨e, hrefused⟩ | ⟨e, he, hresult⟩
    · exact Or.inl ⟨hall, _, token, user, hpresents, hresolves, rfl⟩
    · exact Or.inr (Or.inl ⟨token, e, hpresents, hrefused⟩)
    · refine Or.inr (Or.inr ?_)
      unfold identification
      rw [hbearer]
      dsimp only
      rw [hresult]
      rcases he with rfl | rfl <;> rfl

/-! ### The guard -/

namespace Guard

/-- Whatever the handler is, it runs, and it is told this identity. -/
def LetsThrough (b : Backend σ) (s : Service) (w : World σ) (r : Request) (who : Identity) : Prop :=
  ∃ w₁, ∀ inner, b.run (protect s inner r) w = b.run (inner who r) w₁

theorem letsThrough_of_ok (h : (b.runCall (identify s r) w).1 = .ok who) :
    LetsThrough b s w r who :=
  ⟨_, run_protect_of_ok (Prod.ext h rfl)⟩

/-- Whoever is not identified is not let through, whatever the handler is. -/
theorem not_letsThrough_of_error {e : AuthError} (h : (b.runCall (identify s r) w).1 = .error e) :
    (¬ ∃ who, LetsThrough b s w r who) ∧
      ∀ inner, (b.run (protect s inner r) w).1 = .problem e.problem := by
  have hproblem : ∀ inner, (b.run (protect s inner r) w).1 = .problem e.problem := by
    intro inner
    rw [run_protect_of_error (Prod.ext h rfl)]
  refine ⟨?_, hproblem⟩
  rintro ⟨who, w₁, hruns⟩
  have hzero : ∀ kind : ErrorKind, kind.status ≠ 0 := by
    intro kind
    cases kind <;> decide
  have hresponse := hproblem fun _ _ => pure { status := 0 }
  rw [hruns] at hresponse
  exact hzero e.problem.kind (congrArg Response.status hresponse).symm

/-- A handler is told one identity only. -/
theorem letsThrough_unique {who' : Identity} (h : LetsThrough b s w r who)
    (h' : LetsThrough b s w r who') : who' = who := by
  obtain ⟨w₁, hruns⟩ := h
  obtain ⟨w₂, hruns'⟩ := h'
  have hsame := (hruns fun x _ => pure { status := if x = who then 1 else 0 }).symm.trans
    (hruns' fun x _ => pure { status := if x = who then 1 else 0 })
  have hstatus : (if who = who then 1 else 0) = if who' = who then 1 else 0 :=
    congrArg (fun x : Response × World σ => x.1.status) hsame
  by_contra hne
  rw [if_pos rfl, if_neg hne] at hstatus
  cases hstatus

/--
Whom the guard lets through, and what it answers to all others, by what becomes of the
statements and by the table of users.
-/
structure Decides (b : Backend σ) (s : Service)
    (verdict : Users.StatementKind → Except AuthError Unit) (users : List User) (w : World σ)
    (r : Request) : Prop where
  admits : ∀ who, LetsThrough b s w r who ↔ Admits s users w.now r who ∧ Succeeds verdict
  /-- A refused statement is told as a failure of the server. -/
  interrupted : Interrupted s verdict users w.now r →
    ∀ inner, (b.run (protect s inner r) w).1 = .problem serverProblem
  /-- All other reasons are told alike. -/
  rejects : (¬ ∃ who, LetsThrough b s w r who) → ¬ Interrupted s verdict users w.now r →
    ∀ inner, (b.run (protect s inner r) w).1 = .problem AuthError.unauthorized.problem

theorem decides (h : Transacting b w.store verdict users) (hblames : Blames verdict)
    (s : Service) (r : Request) : Decides b s verdict users w r := by
  have hidentify := runCall_identify (s := s) h r
  constructor
  case admits =>
    intro who
    constructor
    · intro hthrough
      rcases identification_cases s verdict users w.now r with
        ⟨hall, who', hadmits⟩ | hinterrupted | hunauthorized
      · have hthrough' :=
          letsThrough_of_ok (hidentify.trans (identification_of_admits hall hadmits))
        obtain rfl := letsThrough_unique hthrough hthrough'
        exact ⟨hadmits, hall⟩
      · obtain ⟨e, _, herror⟩ := identification_of_interrupted hblames hinterrupted
        exact absurd ⟨who, hthrough⟩ (not_letsThrough_of_error (hidentify.trans herror)).1
      · exact absurd ⟨who, hthrough⟩ (not_letsThrough_of_error (hidentify.trans hunauthorized)).1
    · rintro ⟨hadmits, hall⟩
      exact letsThrough_of_ok (hidentify.trans (identification_of_admits hall hadmits))
  case interrupted =>
    intro hinterrupted inner
    obtain ⟨e, hserver, herror⟩ := identification_of_interrupted hblames hinterrupted
    rw [(not_letsThrough_of_error (hidentify.trans herror)).2, problem_of_isServerError hserver]
  case rejects =>
    intro hnobody hnot inner
    rcases identification_cases s verdict users w.now r with
      ⟨hall, who, hadmits⟩ | hinterrupted | hunauthorized
    · exact absurd
        ⟨who, letsThrough_of_ok (hidentify.trans (identification_of_admits hall hadmits))⟩ hnobody
    · exact absurd hinterrupted hnot
    · exact (not_letsThrough_of_error (hidentify.trans hunauthorized)).2 inner

/-! ### All requests -/

theorem blames_relational (d : Users.Relational) : Blames d.verdict := by
  intro kind e h
  unfold Users.Relational.verdict at h
  split at h
  · cases h
    rfl
  · cases h

variable {κ : Type}

/-- The world in which the database refuses to roll back, or does not. -/
def withRollback (fault : Option String) (w : World (κ × Users.Relational)) :
    World (κ × Users.Relational) :=
  { w with store := (w.store.1, { w.store.2 with faults := w.store.2.faults.put .rollback fault }) }

/-- It does not matter to whom the guard lets through whether a rollback is refused. -/
theorem identification_withRollback (s : Service) (fault : Option String)
    (w : World (κ × Users.Relational)) (r : Request) :
    identification s (withRollback fault w).store.2.verdict (withRollback fault w).store.2.users
        (withRollback fault w).now r =
      identification s w.store.2.verdict w.store.2.users w.now r := by
  have hverdict : ∀ kind ≠ .rollback,
      (withRollback fault w).store.2.verdict kind = w.store.2.verdict kind := by
    intro kind hkind
    unfold Users.Relational.verdict withRollback
    dsimp only
    rw [Table.get?_put, if_neg hkind]
  unfold identification Service.authentication
  rw [hverdict .begin (by decide), hverdict .select (by decide), hverdict .commit (by decide)]
  rfl

/-- What the guard answers to whom it turns away, by what identifying the request comes to. -/
theorem run_protect_congr {σ' : Type} {b' : Backend σ'} {w' : World σ'} {r' : Request}
    (h : (b'.runCall (identify s r') w').1 = (b.runCall (identify s r) w).1) :
    (∀ who, LetsThrough b' s w' r' who ↔ LetsThrough b s w r who) ∧
      ((¬ ∃ who, LetsThrough b s w r who) → ∀ inner inner',
        (b'.run (protect s inner' r') w').1 = (b.run (protect s inner r) w).1) := by
  cases hresult : (b.runCall (identify s r) w).1 with
  | ok found =>
    have hthrough := letsThrough_of_ok hresult
    have hthrough' := letsThrough_of_ok (h.trans hresult)
    refine ⟨?_, fun hnobody => absurd ⟨found, hthrough⟩ hnobody⟩
    intro who
    constructor
    · intro hwho
      rw [letsThrough_unique hthrough' hwho]
      exact hthrough
    · intro hwho
      rw [letsThrough_unique hthrough hwho]
      exact hthrough'
  | error e =>
    obtain ⟨hnobody, hproblem⟩ := not_letsThrough_of_error hresult
    obtain ⟨hnobody', hproblem'⟩ := not_letsThrough_of_error (h.trans hresult)
    refine ⟨?_, fun _ inner inner' => (hproblem' inner').trans (hproblem inner).symm⟩
    intro who
    exact ⟨fun hwho => absurd ⟨who, hwho⟩ hnobody', fun hwho => absurd ⟨who, hwho⟩ hnobody⟩

/-- Only what a handler makes of this request matters. -/
theorem protect_congr {inner inner' : Identity → Request → Action Response}
    (h : ∀ who, inner who r = inner' who r) : protect s inner r = protect s inner' r := by
  unfold protect
  simp only [h]

/-- Behind a route that is looked at with the right method there is the guard and the handler. -/
theorem onProtectedGet_of_isLook {inner : Identity → Request → Action Response}
    (h : r.isLook = true) : onProtectedGet s inner r = protect s inner r := by
  have hinner : protect s (fun who => onGet (inner who)) r = protect s inner r :=
    protect_congr fun who => if_pos h
  unfold onProtectedGet
  rw [hinner]
  simp only [if_pos h]
  exact Program.bind_done_right _

/-- The route that is protected answers with its guard; a `HEAD` gets no body. -/
theorem run_whoami (b : Backend σ) (api : Api) (w : World σ) (hpath : r.path = "/v1/whoami")
    (hlook : r.isLook = true) : (b.run (api.handle r) w).1 =
      if r.method = "HEAD" then (b.run (protect api.service Api.showIdentity r) w).1.bodiless
      else (b.run (protect api.service Api.showIdentity r) w).1 := by
  have hroute : api.route? r.path = some (onProtectedGet api.service Api.showIdentity) := by
    rw [hpath]
    rfl
  unfold Api.handle
  rw [hroute]
  dsimp only
  rw [onProtectedGet_of_isLook hlook, Backend.run_bind]
  split <;> rfl

/--
**The guard admits access tokens of users, and turns everything else away alike.**  Over a
database with any users, whatever it refuses, and over a table in memory, a protected handler
runs exactly if the request presents an access token that is accepted and names a user, and the
transaction goes through (`Decides.admits`); it is told that user.  A statement that is reached
and refused is told as a failure of the server, and all other reasons as one and the same
problem; so where nothing is refused, any two requests that are turned away get the same
response.  Whether a rollback is refused changes nothing.  The route that the service protects
answers with this guard.
-/
theorem guard_decides (s : Service) (cache : Instant → (c : Cache.Command) → κ → c.Outcome × κ) :
    (∀ (w : World (κ × Users.Relational)) r,
      Decides (overDatabase cache) s w.store.2.verdict w.store.2.users w r) ∧
    (∀ (w : World (κ × Users.Memory)) r,
      Decides (overTable cache) s (fun _ => .ok ()) w.store.2.users w r) ∧
    (∀ (w w' : World (κ × Users.Relational)) r r', (∀ kind, w.store.2.verdict kind = .ok ()) →
      (∀ kind, w'.store.2.verdict kind = .ok ()) →
      (¬ ∃ who, LetsThrough (overDatabase cache) s w r who) →
      (¬ ∃ who, LetsThrough (overDatabase cache) s w' r' who) → ∀ inner inner',
        ((overDatabase cache).run (protect s inner' r') w').1 =
            ((overDatabase cache).run (protect s inner r) w).1 ∧
          ((overDatabase cache).run (protect s inner r) w).1.status = 401) ∧
    (∀ (w : World (κ × Users.Relational)) r fault,
      (∀ who, LetsThrough (overDatabase cache) s (withRollback fault w) r who ↔
        LetsThrough (overDatabase cache) s w r who) ∧
      ((¬ ∃ who, LetsThrough (overDatabase cache) s w r who) → ∀ inner,
        ((overDatabase cache).run (protect s inner r) (withRollback fault w)).1 =
          ((overDatabase cache).run (protect s inner r) w).1)) ∧
    ∀ {σ : Type} (b : Backend σ) (api : Api) (w : World σ) r, r.path = "/v1/whoami" →
      r.isLook = true → (b.run (api.handle r) w).1 =
        if r.method = "HEAD" then (b.run (protect api.service Api.showIdentity r) w).1.bodiless
        else (b.run (protect api.service Api.showIdentity r) w).1 := by
  have hdatabase : ∀ (w : World (κ × Users.Relational)) r,
      Decides (overDatabase cache) s w.store.2.verdict w.store.2.users w r := fun w r =>
    decides (Service.transacting_database cache w.store) (blames_relational _) s r
  refine ⟨hdatabase, fun w r => decides (Service.transacting_table cache w.store) nofun s r,
    ?_, ?_, fun b api w r => run_whoami b api w⟩
  · intro w w' r r' hquiet hquiet' hnobody hnobody' inner inner'
    rw [(hdatabase w r).rejects hnobody (not_interrupted hquiet),
      (hdatabase w' r').rejects hnobody' (not_interrupted hquiet')]
    exact ⟨rfl, rfl⟩
  · intro w r fault
    have hsame : ((overDatabase cache).runCall (identify s r) (withRollback fault w)).1 =
        ((overDatabase cache).runCall (identify s r) w).1 := by
      rw [runCall_identify (Service.transacting_database cache _),
        runCall_identify (Service.transacting_database cache _)]
      exact identification_withRollback s fault w r
    obtain ⟨hthrough, hresponse⟩ := run_protect_congr hsame
    exact ⟨hthrough, fun hnobody inner => hresponse hnobody inner inner⟩

end Guard

namespace Sample

/-- The token of a kind that is made for Ada at the first second of all, with zeros for bits. -/
def made (kind : Token.Kind) : String :=
  Service.Sample.codec.sharedToken .sha256 (Service.Sample.codec.payloadOf (.ofSeconds 0)
    (.ofRandom (Service.Sample.zeros 128)) Service.Sample.ada.id.toHex (some kind) {})

/-- A request to be shown who it comes from, with that token. -/
def shown (kind : Token.Kind) : Request where
  method := "GET"
  target := "/v1/whoami"
  headers := [("Authorization", Bytes.ofText ("Bearer " ++ made kind))]

theorem mint_made (kind : Token.Kind) : ∃ expiry, Service.Sample.codec.mint (.ofSeconds 0)
    (.ofRandom (Service.Sample.zeros 128)) (Service.Sample.zeros 512)
    Service.Sample.ada.id.toHex (some kind) {} = .ok (expiry, made kind) :=
  ⟨_, Service.Sample.mint_eq _ _ _ kind 0 (by decide) (by decide)⟩

theorem presents_shown (kind : Token.Kind) : (shown kind).Presents (made kind) := by
  obtain ⟨expiry, hmint⟩ := mint_made kind
  obtain ⟨hvisible, hne⟩ := Token.Codec.allVisible_of_mint hmint
  have hname : Text.sameLetters "Authorization".toList "authorization".toList = true := by decide
  refine presents_of_allVisible hvisible hne ?_
  unfold Request.values shown
  simp only [List.filter_cons, hname, if_true, List.map_cons, List.head?_cons]

/-- It names Ada and is of its kind, and of no other. -/
theorem resolves_made (kind expected : Token.Kind) (user : User) :
    (Service.Sample.service 3).Resolves [Service.Sample.ada] (.ofSeconds 0) (made kind) expected
      user ↔ kind = expected ∧ user = Service.Sample.ada := by
  obtain ⟨expiry, hmint⟩ := mint_made kind
  have hopen := Service.Sample.open?_minted (by decide) hmint
  have hsubject : (Service.Sample.codec.payloadOf (.ofSeconds 0)
      (.ofRandom (Service.Sample.zeros 128)) Service.Sample.ada.id.toHex (some kind) {}).user =
        .ok Service.Sample.ada.id := by
    unfold Token.Payload.user Token.Codec.payloadOf
    rw [UserId.parse?_toHex]
  constructor
  · rintro ⟨payload, id, hopen', hkind, huser, hfind⟩
    obtain rfl := Option.some.inj (hopen.symm.trans hopen')
    refine ⟨by simpa [Token.Payload.isOf, Token.Codec.payloadOf] using hkind, ?_⟩
    exact List.mem_singleton.mp (List.mem_of_find?_eq_some hfind)
  · rintro ⟨rfl, rfl⟩
    exact ⟨_, _, hopen, by simp [Token.Payload.isOf, Token.Codec.payloadOf], hsubject,
      List.find?_cons_of_pos (beq_iff_eq.mpr rfl)⟩

end Sample

/-- With her access token Ada is let through, and with her refresh token she is unauthorized. -/
theorem Guard.guard_decides_ada :
    LetsThrough Service.remote (Service.Sample.service 3) Sample.remoteWorld (Sample.shown .access)
        ⟨Service.Sample.ada.id, "ada"⟩ ∧
      ∀ inner, (Service.remote.run (protect (Service.Sample.service 3) inner (Sample.shown .refresh))
        Sample.remoteWorld).1 = .problem AuthError.unauthorized.problem := by
  obtain ⟨hdecides, _⟩ := guard_decides (Service.Sample.service 3)
    fun now c server => Cache.Remote.perform now c server
  have honly : ∀ {token}, (Sample.shown .refresh).Presents token → token = Sample.made .refresh := by
    intro token h
    exact Option.some.inj ((bearer?_eq_some_iff.mpr h).symm.trans
      (bearer?_eq_some_iff.mpr (Sample.presents_shown .refresh)))
  constructor
  · exact ((hdecides Sample.remoteWorld (Sample.shown .access)).admits _).mpr
      ⟨⟨_, _, Sample.presents_shown .access, (Sample.resolves_made _ _ _).mpr ⟨rfl, rfl⟩, rfl⟩,
        rfl, rfl, rfl⟩
  · refine (hdecides Sample.remoteWorld (Sample.shown .refresh)).rejects ?_
      (not_interrupted fun _ => rfl)
    rintro ⟨who, hthrough⟩
    obtain ⟨⟨token, user, hpresents, hresolves, _⟩, _⟩ :=
      ((hdecides Sample.remoteWorld (Sample.shown .refresh)).admits who).mp hthrough
    rw [honly hpresents] at hresolves
    cases ((Sample.resolves_made _ _ _).mp hresolves).1

end SessionAuth.Http
