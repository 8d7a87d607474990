/-
Failures of the server are not told apart.

Behind a response there may be a database that refused a statement, a list server that refused a
command, or a key that cannot sign.  Two runs over collaborators that fail at the same points in
different words are carried out side by side (`Proofs/Service/Discretion.lean`); over all routes
they respond with the same response, byte for byte, and leave the same behind
(`handle_alike`).  What is said of a failure is one document, whatever failed.
-/
import SessionAuth.Proofs.Cache.Beside
import SessionAuth.Proofs.Http.Answer
import SessionAuth.Proofs.Http.Enumeration
import SessionAuth.Proofs.Http.Rejection
import SessionAuth.Proofs.Service.Discretion
import SessionAuth.Proofs.Users.Beside

namespace SessionAuth

variable {σ σ' : Type}

/-! ### Backends side by side -/

/-- The backends carry out the same commands, and fail at the same points. -/
structure Backend.Alike (b : Backend σ) (b' : Backend σ') (Together : σ → σ' → Prop) : Prop where
  cache : ∀ now c store store', Together store store' →
    Matched AuthError.Hidden Eq (b.cache now c store).1 (b'.cache now c store').1 ∧
      Together (b.cache now c store).2 (b'.cache now c store').2
  users : ∀ c store store', Together store store' →
    Matched AuthError.Hidden Eq (b.users 0 c store).1 (b'.users 0 c store').1 ∧
      Together (b.users 0 c store).2 (b'.users 0 c store').2

/-- The worlds have stores that belong together and differ otherwise in their logs only. -/
structure Alongside (Together : σ → σ' → Prop) (w : World σ) (w' : World σ') : Prop where
  clock : w'.now = w.now
  entropy : w'.entropy = w.entropy
  store : Together w.store w'.store

theorem Backend.Alike.answers {b : Backend σ} {b' : Backend σ'} {Together : σ → σ' → Prop}
    (h : b.Alike b' Together) :
    Program.Answers discretion (b.handle 0) (b'.handle 0) (Alongside Together) := by
  intro c c' w w' hasks hw
  obtain ⟨store, now, entropy, events⟩ := w
  obtain ⟨store', now', entropy', events'⟩ := w'
  obtain ⟨rfl, rfl, hstore⟩ := hw
  cases hasks with
  | log event event' => exact ⟨trivial, rfl, rfl, hstore⟩
  | same =>
    cases c with
    | cache c =>
      obtain ⟨hreply, hafter⟩ := h.cache now' c store store' hstore
      exact ⟨hreply.mono fun _ _ => heq_of_eq, rfl, rfl, hafter⟩
    | users c =>
      obtain ⟨hreply, hafter⟩ := h.users c store store' hstore
      exact ⟨hreply.mono fun _ _ => heq_of_eq, rfl, rfl, hafter⟩
    | clock => exact ⟨rfl, rfl, rfl, hstore⟩
    | random bits => exact ⟨HEq.rfl, rfl, rfl, hstore⟩
    | log event => exact ⟨trivial, rfl, rfl, hstore⟩

namespace Http

open Service (RemoteStore remote)

/-! ### Responses in step -/

/-- The errors that are not told apart are told alike. -/
theorem problem_of_hidden {e e' : AuthError} (h : e.Hidden e') :
    Response.problem e.problem = .problem e'.problem := by
  rcases h with rfl | ⟨he, he'⟩
  · rfl
  · rw [problem_of_isServerError he, problem_of_isServerError he']

/-- The actions respond with the same. -/
abbrev RespondsAlike (action action' : Action Response) : Prop :=
  Program.Coupled discretion Eq action action'

theorem RespondsAlike.pure (response : Response) :
    RespondsAlike (Pure.pure response) (Pure.pure response) := rfl

/-- What is changed in a response afterwards is changed in both. -/
theorem RespondsAlike.map {action action' : Action Response} (h : RespondsAlike action action')
    (f : Response → Response) : RespondsAlike (action >>= fun response => Pure.pure (f response))
      (action' >>= fun response => Pure.pure (f response)) := by
  refine Program.Coupled.bind h ?_
  rintro response _ rfl
  exact RespondsAlike.pure _

theorem respondError_alike {e e' : AuthError} (h : e.Hidden e') :
    RespondsAlike (respondError e) (respondError e') :=
  ⟨.log _ _, fun _ _ _ => problem_of_hidden h⟩

theorem respond_alike {call call' : Call Response} (h : call.Alike call') :
    RespondsAlike (respond call) (respond call') :=
  coupled_respond h (fun _ _ => id) fun _ _ he => ⟨.log _ _, problem_of_hidden he⟩

/-! ### The guard -/

/-- What the guard shows of errors that are not told apart is not told apart. -/
theorem visible_hidden {e e' : AuthError} (h : e.Hidden e') :
    (Guard.visible e).Hidden (Guard.visible e') := by
  rcases h with rfl | ⟨he, he'⟩
  · exact .refl _
  · unfold Guard.visible
    rw [if_pos he, if_pos he']
    exact Or.inr ⟨he, he'⟩

section Guard

variable {s s' : Service} (h : s.Alike s') (r : Request)
include h

theorem identify_alike : (Guard.identify s r).Alike (Guard.identify s' r) := by
  unfold Guard.identify
  cases r.bearer? with
  | none => exact .throw _
  | some token =>
    refine Call.Coupled.bind (Service.authenticate_alike h token .access).lift ?_
    intro result result' hresult
    cases hresult with
    | ok hvalue =>
      subst hvalue
      exact Call.Alike.pure _
    | error he => exact Call.Coupled.throw (visible_hidden he)

variable {r} in
/-- Behind the guard nothing is told apart that is not told apart by the handler. -/
theorem protect_alike {inner inner' : Identity → Request → Action Response}
    (hinner : ∀ who, RespondsAlike (inner who r) (inner' who r)) :
    RespondsAlike (Guard.protect s inner r) (Guard.protect s' inner' r) := by
  unfold Guard.protect
  refine Program.Coupled.bind (identify_alike h r) ?_
  intro result result' hresult
  cases hresult with
  | ok hvalue =>
    subst hvalue
    exact hinner _
  | error he => exact respondError_alike he

end Guard

/-! ### Routes -/

/-- The services are alike, and the cookie is the same. -/
structure Api.Alike (api api' : Api) : Prop where
  service : api.service.Alike api'.service
  cookie : api'.cookie = api.cookie

theorem Api.Alike.refl (api : Api) : api.Alike api := ⟨.refl api.service, rfl⟩

theorem withBody_alike {α : Type} {r : Request} {read : Bytes → Except Json.Fault α}
    {next next' : α → Call Response} (h : ∀ body, (next body).Alike (next' body)) :
    RespondsAlike (withBody r read next) (withBody r read next') := by
  unfold withBody
  cases r.jsonBody read with
  | ok body => exact respond_alike (h body)
  | error fault => exact RespondsAlike.pure _

theorem onPost_alike {handler handler' : Request → Action Response} {r : Request}
    (h : RespondsAlike (handler r) (handler' r)) :
    RespondsAlike (onPost handler r) (onPost handler' r) := by
  unfold onPost
  split
  · exact h
  · exact RespondsAlike.pure _

theorem onGet_alike {handler handler' : Request → Action Response} {r : Request}
    (h : RespondsAlike (handler r) (handler' r)) :
    RespondsAlike (onGet handler r) (onGet handler' r) := by
  unfold onGet
  split
  · exact h
  · exact RespondsAlike.pure _

section Routes

variable {api api' : Api} (h : api.Alike api') (r : Request)
include h

theorem tokenResponse_alike (tokens : IssuedTokens) :
    api'.tokenResponse tokens = api.tokenResponse tokens := by
  unfold Api.tokenResponse
  rw [h.cookie]

theorem refreshToken_alike : api'.refreshToken r = api.refreshToken r := by
  unfold Api.refreshToken
  rw [h.cookie]

theorem login_alike : RespondsAlike (api.login r) (api'.login r) := by
  refine withBody_alike fun body => ?_
  refine (Call.Alike.ofExcept _).bind fun fingerprint => ?_
  refine (Service.login_alike h.service _ _ _).bind fun tokens => ?_
  rw [tokenResponse_alike h]
  exact .ofExcept _

theorem refresh_alike : RespondsAlike (api.refresh r) (api'.refresh r) := by
  refine withBody_alike fun body => ?_
  refine (Call.Alike.ofExcept _).bind fun fingerprint => ?_
  rw [refreshToken_alike h]
  refine (Service.refresh_alike h.service _ _).bind fun tokens => ?_
  rw [tokenResponse_alike h]
  exact .ofExcept _

theorem logout_alike : RespondsAlike (api.logout r) (api'.logout r) := by
  unfold Api.logout
  rw [refreshToken_alike h, h.cookie]
  refine respond_alike ((Service.logout_alike h.service _).bind fun _ => ?_)
  exact (Call.Alike.ofExcept _).bind fun _ => .pure _

theorem protected_alike {inner : Identity → Request → Action Response}
    (hinner : ∀ who, RespondsAlike (inner who r) (inner who r)) :
    RespondsAlike (onProtectedGet api.service inner r) (onProtectedGet api'.service inner r) :=
  (protect_alike h.service fun who => onGet_alike (hinner who)).map _

/-- The same stands at a path on both sides. -/
theorem route_alike (path : String) :
    api.route? path = none ∧ api'.route? path = none ∨
      ∃ handler handler', api.route? path = some handler ∧ api'.route? path = some handler' ∧
        RespondsAlike (handler r) (handler' r) := by
  unfold Api.route?
  split
  · exact Or.inr ⟨_, _, rfl, rfl, onPost_alike (login_alike h r)⟩
  · exact Or.inr ⟨_, _, rfl, rfl, onPost_alike (refresh_alike h r)⟩
  · exact Or.inr ⟨_, _, rfl, rfl, onPost_alike (logout_alike h r)⟩
  · exact Or.inr ⟨_, _, rfl, rfl, onGet_alike (RespondsAlike.pure _)⟩
  · exact Or.inr ⟨_, _, rfl, rfl, protected_alike h r fun _ => RespondsAlike.pure _⟩
  · exact Or.inr ⟨_, _, rfl, rfl, onGet_alike (respondError_alike (.refl _))⟩
  · exact Or.inl ⟨rfl, rfl⟩

/-- **Every request is responded to alike**, as long as the same fails on both sides. -/
theorem handle_alike : RespondsAlike (api.handle r) (api'.handle r) := by
  unfold Api.handle
  rcases route_alike h r r.path with ⟨hnone, hnone'⟩ | ⟨handler, handler', hsome, hsome', halike⟩
  · rw [hnone, hnone']
    exact (RespondsAlike.pure .notFound).map _
  · rw [hsome, hsome']
    exact halike.map _

end Routes

/-! ### A list server and a database -/

/-- The same is stored and refused, and it may be refused in other words. -/
structure Reworded (store store' : RemoteStore) : Prop where
  server : store.1.Beside store'.1
  database : store.2.Beside (fun _ _ => True) Eq store'.2

theorem alike_remote : remote.Alike remote Reworded where
  cache now c store store' h := by
    have hE : Cache.Remote.Conveys AuthError.Hidden :=
      ⟨.refl, fun _ _ => Or.inr ⟨rfl, rfl⟩⟩
    obtain ⟨hreply, hafter⟩ := Cache.Remote.perform_beside hE h.server now c
    exact ⟨hreply, hafter, h.database⟩
  users c store store' h := by
    have hE : Users.Relational.Conveys (fun _ _ => True) AuthError.Hidden :=
      ⟨fun _ _ _ => Or.inr ⟨rfl, rfl⟩, .refl _⟩
    obtain ⟨hreply, hafter⟩ := h.database.perform hE (fun _ => rfl) 0 c
    exact ⟨hreply, h.server, hafter⟩

/-! ### All requests -/

/-- What is told of a failure of the server; a protected route may name its methods. -/
def IsGeneric (r : Request) (response : Response) : Prop :=
  ∃ allow, response =
    let generic := { Response.problem serverProblem with allow := allow }
    if r.method = "HEAD" then generic.bodiless else generic

theorem generic_of_handle (b : Backend σ) (api : Api) (r : Request) (w : World σ)
    (h : 500 ≤ (b.run (api.handle r) w).1.status) : IsGeneric r (b.run (api.handle r) w).1 := by
  obtain ⟨response, hanswers, hresponse⟩ := run_handle b api r w
  rw [hresponse] at h ⊢
  have hstatus : 500 ≤ response.status := by
    split at h <;> exact h
  obtain ⟨allow, rfl⟩ := generic_of_answers hanswers hstatus
  exact ⟨allow, rfl⟩

theorem generic_of_protect (b : Backend σ) (s : Service) (r : Request) (w : World σ) :
    (∃ who w₁, ∀ inner, b.run (Guard.protect s inner r) w = b.run (inner who r) w₁) ∨
      ∀ inner, 500 ≤ (b.run (Guard.protect s inner r) w).1.status →
        (b.run (Guard.protect s inner r) w).1 = .problem serverProblem := by
  rcases run_protect_cases b s r w with hthrough | ⟨e, hproblem⟩
  · exact Or.inl hthrough
  · refine Or.inr fun inner hstatus => ?_
    rw [hproblem] at hstatus ⊢
    by_cases hserver : e.isServerError = true
    · exact problem_of_isServerError hserver
    · exact absurd hstatus (Nat.not_le.mpr (status_of_client hserver))

/--
**Nobody is told what failed.**  A request is responded to with the same response, and leaves
the same behind, over any two backends whose commands fail at the same points, and for any two
services that cannot make tokens at the same points; so is what a guard protects, as long as the
protected handlers keep to that themselves.  In particular a list server and a database may
refuse the same in other words, and then they store the same afterwards.  And whatever tells of
a failure of the server, from any backend at all, is one and the same document.
-/
theorem failures_told_alike {api api' : Api} (h : api.Alike api') {b : Backend σ} {b' : Backend σ'}
    {Together : σ → σ' → Prop} (hb : b.Alike b' Together) (r : Request) :
    (∀ w w', Alongside Together w w' →
      (b'.run (api'.handle r) w').1 = (b.run (api.handle r) w).1 ∧
        Alongside Together (b.run (api.handle r) w).2 (b'.run (api'.handle r) w').2) ∧
    (∀ w w', Alongside Together w w' → ∀ inner inner' : Identity → Request → Action Response,
      (∀ who, RespondsAlike (inner who r) (inner' who r)) →
      (b'.run (Guard.protect api'.service inner' r) w').1 =
          (b.run (Guard.protect api.service inner r) w).1 ∧
        Alongside Together (b.run (Guard.protect api.service inner r) w).2
          (b'.run (Guard.protect api'.service inner' r) w').2) ∧
    (∀ w w', Alongside Reworded w w' →
      (remote.run (api'.handle r) w').1 = (remote.run (api.handle r) w).1 ∧
        Alongside Reworded (remote.run (api.handle r) w).2 (remote.run (api'.handle r) w').2) ∧
    ∀ w, (500 ≤ (b.run (api.handle r) w).1.status → IsGeneric r (b.run (api.handle r) w).1) ∧
      ((∃ who w₁, ∀ inner,
          b.run (Guard.protect api.service inner r) w = b.run (inner who r) w₁) ∨
        ∀ inner, 500 ≤ (b.run (Guard.protect api.service inner r) w).1.status →
          (b.run (Guard.protect api.service inner r) w).1 = .problem serverProblem) := by
  have htold : ∀ {α α' : Type} {b : Backend α} {b' : Backend α'} {Together : α → α' → Prop},
      b.Alike b' Together → ∀ {action action' : Action Response}, RespondsAlike action action' →
      ∀ w w', Alongside Together w w' →
        (b'.run action' w').1 = (b.run action w).1 ∧
          Alongside Together (b.run action w).2 (b'.run action' w').2 := by
    intro α α' b b' Together hb action action' halike w w' hw
    obtain ⟨hresponse, hafter⟩ := Backend.run_coupled halike hb.answers hw
    exact ⟨hresponse.symm, hafter⟩
  refine ⟨htold hb (handle_alike h r), ?_, htold alike_remote (handle_alike h r), ?_⟩
  · intro w w' hw inner inner' hinner
    exact htold hb (protect_alike h.service hinner) w w' hw
  · exact fun w => ⟨generic_of_handle b api r w, generic_of_protect b api.service r w⟩

namespace Sample

/-- The list server refuses to read lists and the database to look users up, in these words. -/
def silenced (words : String) : World RemoteStore :=
  let server : Cache.ListServer := { faults := .ofList [("LRANGE", words)] }
  let database : Users.Relational :=
    { users := [Service.Sample.ada], faults := .ofList [(.select, words)] }
  ⟨(server, database), .ofSeconds 0, ⟨[], 0⟩, []⟩

theorem alongside_silenced (words words' : String) :
    Alongside Reworded (silenced words) (silenced words') := by
  refine ⟨rfl, rfl, ⟨rfl, rfl, rfl, ?_⟩, rfl, rfl, rfl, ?_, .nil⟩
  · intro name
    show (List.lookup name [("LRANGE", words')]).isSome = (List.lookup name [("LRANGE", words)]).isSome
    rw [List.lookup_cons, List.lookup_cons]
    split <;> rfl
  · intro kind
    cases kind with
    | select => exact .some trivial
    | begin | commit | rollback => exact .none

end Sample

/-- A look-up that fails on a lock and one that fails on a full disk are told alike. -/
theorem failures_told_alike_select :
    (remote.run (Sample.api.handle Sample.adaGuessed) (Sample.silenced "disk full")).1 =
        (remote.run (Sample.api.handle Sample.adaGuessed) (Sample.silenced "locked")).1 ∧
      Reworded (remote.run (Sample.api.handle Sample.adaGuessed) (Sample.silenced "locked")).2.store
        (remote.run (Sample.api.handle Sample.adaGuessed) (Sample.silenced "disk full")).2.store ∧
      IsGeneric Sample.adaGuessed
        (remote.run (Sample.api.handle Sample.adaGuessed) (Sample.silenced "locked")).1 := by
  obtain ⟨halike, _, _, hgeneric⟩ :=
    failures_told_alike (.refl Sample.api) alike_remote Sample.adaGuessed
  obtain ⟨hresponse, hafter⟩ := halike _ _ (Sample.alongside_silenced "locked" "disk full")
  exact ⟨hresponse, hafter.store, (hgeneric _).1 (by decide +kernel)⟩

end Http

end SessionAuth
