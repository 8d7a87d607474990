/-
What a rejected request leaves untouched.

With which error a request was rejected is in the log: the response itself does not tell
the errors of the server apart.  An operation puts no response into the log, and whoever
responds puts in the error at most once, so the error of a request is the error of the
call that it made, and vouches for what that call left alone
(`Proofs/Service/Rejection.lean`).  The main statement is `rejected_spares`; it is about
every request, in every state of the collaborators.
-/
import SessionAuth.Http.Api
import SessionAuth.Proofs.Service.Rejection
import SessionAuth.Proofs.Service.Schedule

namespace SessionAuth.Http

open Service (RemoteStore remote conduct Spares)

/-- Between two worlds a request was answered with this error. -/
def Reports (w w' : World RemoteStore) (e : AuthError) : Prop :=
  ∃ new, w'.events = w.events ++ new ∧ Event.responded e ∈ new

/-- Between two worlds no request was answered with an error. -/
def Silent (w w' : World RemoteStore) : Prop :=
  ∃ new, w'.events = w.events ++ new ∧ ∀ e, Event.responded e ∉ new

variable {w w₁ : World RemoteStore} {α β : Type}

theorem Silent.refl (w : World RemoteStore) : Silent w w :=
  ⟨[], (List.append_nil _).symm, fun _ => List.not_mem_nil⟩

/-- What is not in the log has not been reported. -/
theorem Silent.not_reports (h : Silent w w₁) (e : AuthError) : ¬ Reports w w₁ e := by
  rintro ⟨new, hnew, hmem⟩
  obtain ⟨silent, hsilent, hnone⟩ := h
  rw [hsilent] at hnew
  rw [← List.append_cancel_left hnew] at hmem
  exact hnone e hmem

/-- Of what is put into the log last, only that is reported. -/
theorem Silent.reports_eq {e e' : AuthError} (h : Silent w w₁)
    (hreports : Reports w { w₁ with events := w₁.events ++ [.responded e] } e') : e' = e := by
  obtain ⟨new, hnew, hmem⟩ := hreports
  obtain ⟨silent, hsilent, hnone⟩ := h
  have hsame : silent ++ [Event.responded e] = new := by
    refine List.append_cancel_left (Eq.trans ?_ hnew)
    rw [← List.append_assoc, ← hsilent]
  rw [← hsame] at hmem
  rcases List.mem_append.mp hmem with hold | hlast
  · exact absurd hold (hnone e')
  · exact Event.responded.inj (List.mem_singleton.mp hlast)

/-- Where a call ends: its conduct says so, and it has not been responded to yet. -/
theorem ends_of_meets {call : Call α} {ends : World RemoteStore → Except AuthError α → Prop}
    (h : Call.Meets (conduct 0) call ends w) :
    ∃ result w₁, remote.runCall call w = (result, w₁) ∧ ends w₁ result ∧ Silent w w₁ := by
  have hanswers : ∀ e w, (conduct 0).answers e w (remote.handle 0 e w).1 (remote.handle 0 e w).2 :=
    fun e w => .handled e w
  refine ⟨_, _, rfl, Program.Meets.run h hanswers, Program.Meets.run_keeps h hanswers ?_ (.refl w)⟩
  intro e later hasks ⟨new, hnew, hnone⟩
  cases e with
  | log event =>
    refine ⟨new ++ [event], ?_, ?_⟩
    · show later.events ++ [event] = _
      rw [hnew, List.append_assoc]
    · intro e hmem
      rcases List.mem_append.mp hmem with hold | hlast
      · exact hnone e hold
      · exact hasks e (congrArg Effect.log (List.mem_singleton.mp hlast).symm)
  | _ => exact ⟨new, hnew, hnone⟩

/-! ### Responses -/

/-- What is done about a request keeps to what its error vouches for. -/
def Vouches (Q : RemoteStore → Prop) (action : Action Response) (w : World RemoteStore) : Prop :=
  Q (remote.run action w).2.store ∧
    ∀ e, Reports w (remote.run action w).2 e → Spares w.store (remote.run action w).2.store e

variable {Q Q' : RemoteStore → Prop}

theorem Vouches.mono {action : Action Response} (h : Vouches Q action w)
    (himp : ∀ store, Q store → Q' store) : Vouches Q' action w :=
  ⟨himp _ h.1, h.2⟩

/-- A response that is known without asking anything. -/
theorem vouches_pure (response : Response) (h : Q w.store) :
    Vouches Q (pure response : Action Response) w :=
  ⟨h, fun e hreports => absurd hreports ((Silent.refl w).not_reports e)⟩

/-- The response to a call tells of the error of the call and of no other one. -/
theorem vouches_respond {call : Call Response}
    (h : Call.Meets (conduct 0) call (fun later result => Q later.store ∧
      ∀ e, result = .error e → Spares w.store later.store e) w) :
    Vouches Q (respond call) w := by
  obtain ⟨result, w₁, hrun, ⟨hQ, hspares⟩, hsilent⟩ := ends_of_meets h
  have hcall : Program.run (remote.handle 0) call.run w = (result, w₁) := hrun
  unfold Vouches Backend.run respond
  rw [Program.bind_eq, Program.run_bind, hcall]
  cases result with
  | ok response => exact ⟨hQ, fun e hreports => absurd hreports (hsilent.not_reports e)⟩
  | error e =>
    refine ⟨hQ, ?_⟩
    intro e' hreports
    obtain rfl := hsilent.reports_eq hreports
    exact hspares e' rfl

/-- A response that is changed afterwards tells of the same error. -/
theorem Vouches.map {action : Action Response} {f : Response → Response} (h : Vouches Q action w) :
    Vouches Q (action >>= fun response => pure (f response)) w := by
  have hworld : (remote.run (action >>= fun response => pure (f response)) w).2 =
      (remote.run action w).2 := by
    unfold Backend.run
    rw [Program.bind_eq, Program.run_bind]
    rfl
  unfold Vouches at h ⊢
  rw [hworld]
  exact h

theorem vouches_onPost {handler : Request → Action Response} {r : Request} (hstart : Q w.store)
    (h : Vouches Q (handler r) w) : Vouches Q (onPost handler r) w := by
  unfold onPost
  split
  · exact h
  · exact vouches_pure _ hstart

theorem vouches_onGet {handler : Request → Action Response} {r : Request} (hstart : Q w.store)
    (h : Vouches Q (handler r) w) : Vouches Q (onGet handler r) w := by
  unfold onGet
  split
  · exact h
  · exact vouches_pure _ hstart

/-- A handler reads the body and the fingerprint in it before anything is asked for. -/
theorem vouches_withBody {r : Request} {read : Bytes → Except Json.Fault α}
    {fingerprint : α → String} {work : α → Session.Fingerprint → Call IssuedTokens} {api : Api}
    (hstart : Q w.store)
    (h : ∀ body f, Call.Meets (conduct 0) (work body f) (fun later result => Q later.store ∧
      ∀ e, result = .error e → Spares w.store later.store e) w) :
    Vouches Q (withBody r read fun body => do
      let f ← Call.ofExcept (Session.Fingerprint.ofText (fingerprint body))
      let tokens ← work body f
      Call.ofExcept (api.tokenResponse tokens)) w := by
  unfold withBody
  cases r.jsonBody read with
  | error fault => exact vouches_pure _ hstart
  | ok body =>
    refine vouches_respond (Call.meets_bind.2 (Call.meets_ofExcept.2 ?_))
    cases hfingerprint : Session.Fingerprint.ofText (fingerprint body) with
    | error e =>
      refine ⟨hstart, ?_⟩
      intro e' he'
      cases he'
      rw [(Session.Fingerprint.ofText_eq_error_iff.mp hfingerprint).2]
      exact rfl
    | ok f =>
      refine (h body f).bind ?_ fun later e hlater =>
        ⟨hlater.1, fun e' he' => hlater.2 e' (by cases he'; rfl)⟩
      intro later tokens hlater
      refine Call.meets_ofExcept.2 ⟨hlater.1, ?_⟩
      intro e he
      -- All that can still go wrong is that the cookie cannot be written.
      unfold Api.tokenResponse Api.header at he
      cases hcookie : api.cookie.setHeader? tokens.refresh tokens.maxAge with
      | some text =>
        rw [hcookie] at he
        cases he
      | none =>
        rw [hcookie] at he
        cases he
        exact trivial

/-! ### Routes -/

theorem vouches_login (api : Api) (r : Request) (w : World RemoteStore) :
    Vouches (fun _ => True) (api.login r) w := by
  refine vouches_withBody trivial ?_
  intro body f
  have hmeets := api.service.login_meets body.login (.ofTyped body.password) f 0 w
  exact hmeets.mono fun _ _ h => ⟨trivial, h⟩

theorem vouches_refresh (api : Api) (r : Request) (w : World RemoteStore) :
    Vouches (api.service.Guards .refresh (api.refreshToken r) w) (api.refresh r) w :=
  vouches_withBody (fun _ => rfl) fun _ f => api.service.refresh_meets f (api.refreshToken r) 0 w

theorem vouches_logout (api : Api) (r : Request) (w : World RemoteStore) :
    Vouches (api.service.Guards .refresh (api.refreshToken r) w) (api.logout r) w := by
  refine vouches_respond ((api.service.logout_meets (api.refreshToken r) 0 w).bind ?_
    fun later e h => ⟨h.1, fun e' he' => h.2 e' (by cases he'; rfl)⟩)
  intro later _ h
  refine Call.meets_bind.2 (Call.meets_ofExcept.2 ?_)
  cases api.cookie.deleteHeader? with
  | some text => exact Call.meets_pure.2 ⟨h.1, fun e he => by cases he⟩
  | none =>
    refine ⟨h.1, ?_⟩
    intro e he
    cases he
    exact trivial

theorem spares_of_server {before after : RemoteStore} {e : AuthError} (h : after.1 = before.1)
    (he : e ≠ .invalidFingerprint) : Spares before after e := by
  cases e with
  | invalidFingerprint => exact absurd rfl he
  | invalidCredentials => exact h
  | tokenInvalid => exact h
  | unauthorized => exact h
  | database fault => exact fun _ => h
  | unknownToken => exact congrArg Cache.ListServer.keys h
  | sessionRevoked => exact trivial
  | configuration detail => exact trivial
  | cache fault => exact trivial
  | internal detail => exact trivial

/-- Whom the guard lets in has presented an access token, and nothing was asked of the server. -/
theorem identify_meets (s : Service) (r : Request) (w : World RemoteStore) :
    Call.Meets (conduct 0) (Guard.identify s r) (fun later result =>
      later.store.1 = w.store.1 ∧ (∀ e, result = .error e → e ≠ .invalidFingerprint) ∧
        ∀ who, result = .ok who →
          ∃ token, r.bearer? = some token ∧ s.Presents .access w.now token) w := by
  unfold Guard.identify
  cases r.bearer? with
  | none =>
    refine Call.meets_throw.2 ⟨rfl, ?_, fun who h => by cases h⟩
    intro e h
    cases h
    simp
  | some token =>
    refine Call.meets_bind.2 (Call.meets_lift.2 ((s.authenticate_meets token .access 0 w).mono ?_))
    intro later result h
    cases result with
    | ok user =>
      exact Call.meets_pure.2 ⟨h.1, fun e h => (by cases h), fun _ _ => ⟨token, rfl, h.2 user rfl⟩⟩
    | error e =>
      refine Call.meets_throw.2 ⟨h.1, ?_, fun who h => by cases h⟩
      intro e' h
      cases h
      cases e <;> simp [Guard.visible, AuthError.isServerError, ErrorKind.isServerError,
        AuthError.kind, ErrorKind.status]

/-- The guard either hands a request on or turns it away, and asks nothing of the server. -/
theorem protect_cases (s : Service) (inner : Identity → Request → Action Response) (r : Request)
    (w : World RemoteStore) :
    (∃ who w₁, remote.run (Guard.protect s inner r) w = remote.run (inner who r) w₁ ∧
        w₁.store.1 = w.store.1 ∧ Silent w w₁ ∧
        ∃ token, r.bearer? = some token ∧ s.Presents .access w.now token) ∨
      (∃ e, Reports w (remote.run (Guard.protect s inner r) w).2 e) ∧
        Vouches (fun store => store.1 = w.store.1) (Guard.protect s inner r) w := by
  obtain ⟨result, w₁, hrun, ⟨hserver, herror, hok⟩, hsilent⟩ := ends_of_meets (identify_meets s r w)
  have hcall : Program.run (remote.handle 0) (Guard.identify s r).run w = (result, w₁) := hrun
  unfold Vouches Backend.run Guard.protect
  rw [Program.bind_eq, Program.run_bind, hcall]
  cases result with
  | ok who => exact Or.inl ⟨who, w₁, rfl, hserver, hsilent, hok who rfl⟩
  | error e =>
    have hlogged := hsilent
    obtain ⟨new, hnew, _⟩ := hlogged
    refine Or.inr ⟨⟨e, new ++ [.responded e], ?_, by simp⟩, hserver, ?_⟩
    · show w₁.events ++ [.responded e] = _
      rw [hnew, List.append_assoc]
    · intro e' hreports
      obtain rfl := hsilent.reports_eq hreports
      exact spares_of_server hserver (herror e' rfl)

/-- Showing somebody who he is asks for nothing. -/
theorem vouches_protected (s : Service) (r : Request) (w : World RemoteStore) :
    Vouches (fun store => store.1 = w.store.1) (onProtectedGet s Api.showIdentity r) w := by
  refine Vouches.map ?_
  rcases protect_cases s (fun who => onGet (Api.showIdentity who)) r w with
    ⟨who, w₁, hrun, hserver, hsilent, _⟩ | ⟨_, hvouches⟩
  · have hworld : (remote.run (onGet (Api.showIdentity who) r) w₁).2 = w₁ := by
      unfold onGet
      split <;> rfl
    unfold Vouches
    rw [hrun, hworld]
    exact ⟨hserver, fun e hreports => absurd hreports (hsilent.not_reports e)⟩
  · exact hvouches

/-- A request without an identity is turned away before anything is asked for. -/
theorem vouches_open (r : Request) (w : World RemoteStore) :
    Vouches (fun _ => True) (onGet Api.openIdentity r) w := by
  refine vouches_onGet trivial ⟨trivial, ?_⟩
  intro e hreports
  obtain rfl := (Silent.refl w).reports_eq hreports
  exact rfl

/-- The error of a request is the error of what was done at its path. -/
theorem vouches_handle (api : Api) (r : Request) (w : World RemoteStore) :
    Vouches (fun store =>
      r.path = "/v1/auth/refresh" ∨ r.path = "/v1/auth/logout" →
        api.service.Guards .refresh (api.refreshToken r) w store) (api.handle r) w := by
  unfold Api.handle
  cases hroute : api.route? r.path with
  | none => exact (vouches_pure _ fun _ _ => rfl).map
  | some handler =>
    refine Vouches.map ?_
    unfold Api.route? at hroute
    split at hroute <;> cases hroute
    · rename_i hpath
      refine (vouches_onPost trivial (vouches_login api r w)).mono ?_
      intro store _ hother
      rw [hpath] at hother
      simp at hother
    · exact (vouches_onPost (fun _ => rfl) (vouches_refresh api r w)).mono fun store h _ => h
    · exact (vouches_onPost (fun _ => rfl) (vouches_logout api r w)).mono fun store h _ => h
    · exact vouches_onGet (fun _ _ => rfl) (vouches_pure _ fun _ _ => rfl)
    · exact (vouches_protected api.service r w).mono fun store h _ _ => h
    · rename_i hpath
      refine (vouches_open r w).mono ?_
      intro store _ hother
      rw [hpath] at hother
      simp at hother

/--
**Rejected requests never write sessions.**  Whatever the state and whatever the list server
and the database refuse, the error of a request vouches for what was left alone; refreshing
and logging out ask nothing of the server without a refresh token; and whatever stands
behind the guard, the guard asks nothing of the server, and it lets nobody in without an
access token.
-/
theorem rejected_spares (api : Api) (r : Request) (w : World RemoteStore) :
    (∀ e, Reports w (remote.run (api.handle r) w).2 e →
        Spares w.store (remote.run (api.handle r) w).2.store e) ∧
      (r.path = "/v1/auth/refresh" ∨ r.path = "/v1/auth/logout" →
        ¬ api.service.Presents .refresh w.now (api.refreshToken r) →
        (remote.run (api.handle r) w).2.store.1 = w.store.1) ∧
      ∀ inner : Identity → Request → Action Response,
        (∃ who w₁, remote.run (Guard.protect api.service inner r) w = remote.run (inner who r) w₁ ∧
            w₁.store.1 = w.store.1 ∧
            ∃ token, r.bearer? = some token ∧ api.service.Presents .access w.now token) ∨
          (∃ e, Reports w (remote.run (Guard.protect api.service inner r) w).2 e) ∧
            (remote.run (Guard.protect api.service inner r) w).2.store.1 = w.store.1 := by
  obtain ⟨hguards, hspares⟩ := vouches_handle api r w
  refine ⟨hspares, hguards, ?_⟩
  intro inner
  rcases protect_cases api.service inner r w with
    ⟨who, w₁, hrun, hserver, _, hpresents⟩ | ⟨hreports, hserver, _⟩
  · exact Or.inl ⟨who, w₁, hrun, hserver, hpresents⟩
  · exact Or.inr ⟨hreports, hserver⟩

namespace Sample

def api : Api := ⟨Service.Sample.service 3, .session⟩

/-- A request to refresh that carries no cookie. -/
def tokenless : Request where
  method := "POST"
  target := "/v1/auth/refresh"
  headers := [("content-type", Bytes.ofText "application/json")]
  body := Bytes.ofText "\x7b\"fingerprint\":\"laptop\"\x7d"

/-- Nothing has been asked of the server or of the database with its one user. -/
def remoteWorld : World RemoteStore :=
  ⟨({}, { users := [Service.Sample.ada] }), .ofSeconds 0, ⟨[], 0⟩, []⟩

end Sample

/-- Without a token a refresh is rejected as one with an invalid token, and no list is read. -/
theorem rejected_spares_tokenless :
    Reports Sample.remoteWorld (remote.run (Sample.api.handle Sample.tokenless) Sample.remoteWorld).2
        .tokenInvalid ∧
      (remote.run (Sample.api.handle Sample.tokenless) Sample.remoteWorld).2.store.1 =
        Sample.remoteWorld.store.1 := by
  have hreports : Reports Sample.remoteWorld
      (remote.run (Sample.api.handle Sample.tokenless) Sample.remoteWorld).2 .tokenInvalid :=
    ⟨[.tokenRejected, .responded .tokenInvalid], rfl, by simp⟩
  exact ⟨hreports, (rejected_spares Sample.api Sample.tokenless Sample.remoteWorld).1 _ hreports⟩

end SessionAuth.Http
