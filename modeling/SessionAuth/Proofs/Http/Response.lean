/-
From calls to responses.

What a handler answers is the outcome of one call: its result, or the problem that its error
stands for, and then the error is in the log as well.  The rules here are stated for any
backend, so that a run of a handler can be followed from what is known of its call.

The routes of the service are brought into this form too.  A request to log in or to refresh whose
body and fingerprint are accepted is answered by one call of the service and the response that
carries its tokens (`handle_login`, `handle_refresh`), and a response with status 200 is followed
back to its call (`runCall_of_status`, `tokens_of_runCall`).
-/
import SessionAuth.Http.Api
import SessionAuth.Proofs.Deployment.Runs

namespace SessionAuth

variable {σ α β : Type} {b : Backend σ} {w w₁ w₂ : World σ}

namespace Http

open Session (Fingerprint)

variable {api : Api} {r : Request} {call : Call Response}

/-! ### Responses to calls -/

theorem run_respond_of_ok {response : Response} (h : b.runCall call w = (.ok response, w₁)) :
    b.run (respond call) w = (response, w₁) := by
  unfold Backend.runCall Backend.run at *
  unfold respond
  rw [Program.bind_eq, Program.run_bind, h]
  rfl

theorem run_respond_of_error {e : AuthError} (h : b.runCall call w = (.error e, w₁)) :
    b.run (respond call) w =
      (.problem e.problem, { w₁ with events := w₁.events ++ [.responded e] }) := by
  unfold Backend.runCall Backend.run at *
  unfold respond
  rw [Program.bind_eq, Program.run_bind, h]
  rfl

/-- The response to a call is its result, or tells of its error. -/
theorem run_respond_cases (b : Backend σ) (call : Call Response) (w : World σ) :
    (∃ response w₁, b.runCall call w = (.ok response, w₁) ∧
        (b.run (respond call) w).1 = response) ∨
      ∃ e : AuthError, (b.run (respond call) w).1 = .problem e.problem := by
  cases hcall : b.runCall call w with
  | mk result w₁ =>
    cases result with
    | ok response => exact Or.inl ⟨response, w₁, rfl, by rw [run_respond_of_ok hcall]⟩
    | error e => exact Or.inr ⟨e, by rw [run_respond_of_error hcall]⟩

/-- A response with status 200 to a call is its result. -/
theorem runCall_of_status (h : (b.run (respond call) w).1.status = 200) :
    ∃ response w₁, b.runCall call w = (.ok response, w₁) ∧ b.run (respond call) w = (response, w₁) := by
  cases hcall : b.runCall call w with
  | mk result w₁ =>
    cases result with
    | ok response => exact ⟨response, w₁, rfl, run_respond_of_ok hcall⟩
    | error e =>
      have hne : ∀ kind : ErrorKind, kind.status ≠ 200 := by
        intro kind
        cases kind <;> decide
      rw [run_respond_of_error hcall] at h
      exact absurd h (hne e.problem.kind)

/-- Whoever is identified is let through. -/
theorem run_protect_of_ok {s : Service} {who : Identity}
    (h : b.runCall (Guard.identify s r) w = (.ok who, w₁))
    (inner : Identity → Request → Action Response) :
    b.run (Guard.protect s inner r) w = b.run (inner who r) w₁ := by
  unfold Backend.runCall Backend.run at *
  unfold Guard.protect
  rw [Program.bind_eq, Program.run_bind, h]

/-- Whoever is not identified is told the error. -/
theorem run_protect_of_error {s : Service} {e : AuthError}
    (h : b.runCall (Guard.identify s r) w = (.error e, w₁))
    (inner : Identity → Request → Action Response) :
    b.run (Guard.protect s inner r) w =
      (.problem e.problem, { w₁ with events := w₁.events ++ [.responded e] }) := by
  unfold Backend.runCall Backend.run at *
  unfold Guard.protect
  rw [Program.bind_eq, Program.run_bind, h]
  rfl

/-- Calls in step are responded to in step. -/
theorem coupled_respond {call' : Call Response} {k : Coupling Effect Effect.Reply}
    {E : AuthError → AuthError → Prop} {R ends : Response → Response → Prop}
    (h : Call.Coupled k E R call call') (hok : ∀ x x', R x x' → ends x x')
    (herror : ∀ e e', E e e' → k.asks (.log (.responded e)) (.log (.responded e')) ∧
      ends (.problem e.problem) (.problem e'.problem)) :
    Program.Coupled k ends (respond call) (respond call') := by
  unfold respond
  refine Program.Coupled.bind h ?_
  intro result result' hmatched
  cases hmatched with
  | ok hvalue => exact hok _ _ hvalue
  | error he => exact ⟨(herror _ _ he).1, fun _ _ _ => (herror _ _ he).2⟩

/-! ### Routes -/

/-- Where nothing is left out for a `HEAD`, what stands at the path answers. -/
theorem handle_of_route {handler : Request → Action Response}
    (h : api.route? r.path = some handler) (hhead : r.method ≠ "HEAD") :
    api.handle r = handler r := by
  unfold Api.handle
  rw [h]
  simp only [if_neg hhead]
  exact Program.bind_done_right _

/-- A request to log in with a body that is accepted. -/
structure Request.IsLogin (r : Request) (body : LoginBody) (fingerprint : Fingerprint) : Prop where
  method : r.method = "POST"
  path : r.path = "/v1/auth/login"
  reads : r.jsonBody LoginBody.ofJson? = .ok body
  accepts : Fingerprint.ofText body.fingerprint = .ok fingerprint

/-- A request to refresh with a body that is accepted. -/
structure Request.IsRefresh (r : Request) (fingerprint : Fingerprint) : Prop where
  method : r.method = "POST"
  path : r.path = "/v1/auth/refresh"
  reads : ∃ body, r.jsonBody FingerprintBody.ofJson? = .ok body ∧
    Fingerprint.ofText body.fingerprint = .ok fingerprint

/-- A session that was opened is answered with its tokens. -/
def Api.answered (api : Api) (call : Call IssuedTokens) : Call Response :=
  call >>= fun tokens => Call.ofExcept (api.tokenResponse tokens)

/-- New tokens were made for a fingerprint that was accepted. -/
theorem tokens_of_runCall {accepts : Except AuthError Fingerprint}
    {work : Fingerprint → Call IssuedTokens} {response : Response}
    (h : b.runCall (do
      let fingerprint ← Call.ofExcept accepts
      let tokens ← work fingerprint
      Call.ofExcept (api.tokenResponse tokens)) w = (.ok response, w₁)) :
    ∃ fingerprint tokens, accepts = .ok fingerprint ∧
      b.runCall (work fingerprint) w = (.ok tokens, w₁) ∧
      api.tokenResponse tokens = .ok response := by
  obtain ⟨fingerprint, w₂, hfirst, hwork⟩ := Backend.runCall_bind_eq_ok h
  obtain ⟨haccepts, rfl⟩ := Backend.ofExcept_eq_ok hfirst
  obtain ⟨tokens, w₃, htokens, hlast⟩ := Backend.runCall_bind_eq_ok hwork
  obtain ⟨hresponse, rfl⟩ := Backend.ofExcept_eq_ok hlast
  exact ⟨fingerprint, tokens, haccepts, htokens, hresponse⟩

theorem onPost_of_post {handler : Request → Action Response} (h : r.method = "POST") :
    onPost handler r = handler r := if_pos h

theorem handle_login {body : LoginBody} {fingerprint : Fingerprint} (h : r.IsLogin body fingerprint) :
    api.handle r = respond
      (api.answered (api.service.login body.login (.ofTyped body.password) fingerprint)) := by
  have hroute : api.route? r.path = some (onPost api.login) := by
    rw [h.path]
    rfl
  rw [handle_of_route hroute (by rw [h.method]; decide), onPost_of_post h.method]
  unfold Api.login withBody
  rw [h.reads]
  simp only [h.accepts]
  rfl

theorem handle_refresh {fingerprint : Fingerprint} (h : r.IsRefresh fingerprint) :
    api.handle r = respond
      (api.answered (api.service.refresh fingerprint (api.refreshToken r))) := by
  have hroute : api.route? r.path = some (onPost api.refresh) := by
    rw [h.path]
    rfl
  obtain ⟨body, hreads, haccepts⟩ := h.reads
  rw [handle_of_route hroute (by rw [h.method]; decide), onPost_of_post h.method]
  unfold Api.refresh withBody
  rw [hreads]
  simp only [haccepts]
  rfl

theorem handle_logout (hmethod : r.method = "POST") (hpath : r.path = "/v1/auth/logout") :
    api.handle r = api.logout r := by
  have hroute : api.route? r.path = some (onPost api.logout) := by
    rw [hpath]
    rfl
  rw [handle_of_route hroute (by rw [hmethod]; decide), onPost_of_post hmethod]

end Http

end SessionAuth
