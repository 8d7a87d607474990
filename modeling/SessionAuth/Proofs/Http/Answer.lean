/-
The answers of the service.

Over all its routes, and whatever its collaborators reply, the service answers in few ways.
`Api.Answers` lists them, and `run_handle` says that there are no others; what a `HEAD` leaves
out is left out at the very end.  What is to be said of every response is then said case by case.
Tokens and cookies only come with a success (`tokenless_of_answers`), and what tells of a failure
of the server is the same document for all failures (`generic_of_answers`).

One answer may hold a text of the client's.  A body that cannot be read is answered with what the
reader has to say of it, and the reader may quote it, be it a token.  Such an answer is made of
the request alone (`Request.Determines`): no service, store or state has a part in it.
-/
import SessionAuth.Proofs.Http.Response

namespace SessionAuth.Http

variable {σ α : Type} {b : Backend σ} {w : World σ} {api : Api} {r : Request} {fault : BodyFault}

/-! ### Bodies that are refused -/

/-- The request is one for tokens, and its body is refused. -/
inductive Request.IsRefused (r : Request) (fault : BodyFault) : Prop
  | login (hpost : r.method = "POST") (hpath : r.path = "/v1/auth/login")
    (h : r.jsonBody LoginBody.ofJson? = .error fault)
  | refresh (hpost : r.method = "POST") (hpath : r.path = "/v1/auth/refresh")
    (h : r.jsonBody FingerprintBody.ofJson? = .error fault)

/--
The request alone determines the response: every service gives it, over every backend and in every
state, and leaves the state as it is.
-/
def Request.Determines (r : Request) (response : Response) : Prop :=
  ∀ (api : Api) (σ : Type) (b : Backend σ) (w : World σ), b.run (api.handle r) w = (response, w)

theorem withBody_of_error {read : Bytes → Except Json.Fault α} {next : α → Call Response}
    (h : r.jsonBody read = .error fault) : withBody r read next = pure fault.response := by
  unfold withBody
  rw [h]

/-- A refused body is answered before anything else is looked at. -/
theorem Request.IsRefused.determines (h : r.IsRefused fault) : r.Determines fault.response := by
  intro api σ b w
  have hpost : r.method = "POST" := by cases h <;> assumption
  have hhead : r.method ≠ "HEAD" := by
    rw [hpost]
    decide
  have hhandle : api.handle r = pure fault.response := by
    cases h with
    | login _ hpath h =>
      have hroute : api.route? r.path = some (onPost api.login) := by
        rw [hpath]
        rfl
      rw [handle_of_route hroute hhead, onPost_of_post hpost]
      exact withBody_of_error h
    | refresh _ hpath h =>
      have hroute : api.route? r.path = some (onPost api.refresh) := by
        rw [hpath]
        rfl
      rw [handle_of_route hroute hhead, onPost_of_post hpost]
      exact withBody_of_error h
  rw [hhandle]
  rfl

/-- What is refused is not JSON, is too long, or could not be read. -/
theorem fault_of_jsonBody {read : Bytes → Except Json.Fault α}
    (h : r.jsonBody read = .error fault) :
    fault = .notJson ∨ fault = .tooLong ∨ ∃ cause, fault = .faulty cause r.remark := by
  unfold Request.jsonBody at h
  split at h
  · split at h
    · split at h <;> cases h
      exact Or.inr (Or.inr ⟨_, rfl⟩)
    · cases h
      exact Or.inr (Or.inl rfl)
  · cases h
    exact Or.inl rfl

theorem Request.IsRefused.cases (h : r.IsRefused fault) :
    fault = .notJson ∨ fault = .tooLong ∨ ∃ cause, fault = .faulty cause r.remark := by
  cases h with
  | login _ _ h => exact fault_of_jsonBody h
  | refresh _ _ h => exact fault_of_jsonBody h

/-! ### Handlers -/

/-- What the service answers to a request. -/
inductive Api.Answers (api : Api) (r : Request) : Response → Prop
  | tokens {tokens : IssuedTokens} {response : Response}
    (h : api.tokenResponse tokens = .ok response) : Answers api r response
  | loggedOut {cookie : String} (h : api.cookie.deleteHeader? = some cookie) :
    Answers api r { Response.json 200 (StatusBody.toJson ⟨true⟩) with setCookie := some cookie }
  /-- A protected route names its methods even when it tells of a problem. -/
  | problem (e : AuthError) (allow : Option String) :
    Answers api r { Response.problem e.problem with allow := allow }
  | refusedBody {fault : BodyFault} (h : r.IsRefused fault) : Answers api r fault.response
  | methodNotAllowed (allow : String) : Answers api r (.methodNotAllowed allow)
  | notFound : Answers api r .notFound
  | health : Answers api r (.json 200 (HealthBody.toJson ⟨true⟩))
  | identity (who : Identity) :
    Answers api r (.plain 200 (who.user.toHex ++ " " ++ who.login))

theorem answers_problem (api : Api) (r : Request) (e : AuthError) :
    api.Answers r (.problem e.problem) :=
  .problem e none

/-- Where a body is read, the answer is to the body or to the call. -/
theorem answers_withBody {read : Bytes → Except Json.Fault α} {next : α → Call Response}
    (hrefused : ∀ fault, r.jsonBody read = .error fault → r.IsRefused fault)
    (h : ∀ body response w₁, b.runCall (next body) w = (.ok response, w₁) →
      api.Answers r response) : api.Answers r (b.run (withBody r read next) w).1 := by
  cases hbody : r.jsonBody read with
  | error fault =>
    rw [withBody_of_error hbody]
    exact .refusedBody (hrefused fault hbody)
  | ok body =>
    unfold withBody
    rw [hbody]
    rcases run_respond_cases b (next body) w with ⟨response, w₁, hcall, hresponse⟩ | ⟨e, hresponse⟩
    · rw [hresponse]
      exact h body response w₁ hcall
    · rw [hresponse]
      exact answers_problem api r e

theorem answers_login (hpost : r.method = "POST") (hpath : r.path = "/v1/auth/login") :
    api.Answers r (b.run (api.login r) w).1 := by
  refine answers_withBody (fun fault => .login hpost hpath) ?_
  intro body response w₁ h
  obtain ⟨_, _, _, _, hresponse⟩ := tokens_of_runCall h
  exact .tokens hresponse

theorem answers_refresh (hpost : r.method = "POST") (hpath : r.path = "/v1/auth/refresh") :
    api.Answers r (b.run (api.refresh r) w).1 := by
  refine answers_withBody (fun fault => .refresh hpost hpath) ?_
  intro body response w₁ h
  obtain ⟨_, _, _, _, hresponse⟩ := tokens_of_runCall h
  exact .tokens hresponse

theorem answers_logout : api.Answers r (b.run (api.logout r) w).1 := by
  unfold Api.logout
  rcases run_respond_cases b _ w with ⟨response, w₁, hcall, hresponse⟩ | ⟨e, hresponse⟩
  · rw [hresponse]
    obtain ⟨_, _, _, hcookie⟩ := Backend.runCall_bind_eq_ok hcall
    obtain ⟨cookie, _, hheader, hpure⟩ := Backend.runCall_bind_eq_ok hcookie
    obtain rfl := Except.ok.inj (congrArg Prod.fst hpure)
    refine .loggedOut ?_
    have hheader : Api.header api.cookie.deleteHeader? = .ok cookie := congrArg Prod.fst hheader
    unfold Api.header at hheader
    split at hheader
    · rename_i text htext
      rw [htext, Except.ok.inj hheader]
    · cases hheader
  · rw [hresponse]
    exact answers_problem api r e

/-- The guard lets a request through, or answers with a problem. -/
theorem run_protect_cases (b : Backend σ) (s : Service) (r : Request) (w : World σ) :
    (∃ who w₁, ∀ inner, b.run (Guard.protect s inner r) w = b.run (inner who r) w₁) ∨
      ∃ e : AuthError, ∀ inner, (b.run (Guard.protect s inner r) w).1 = .problem e.problem := by
  cases hidentify : b.runCall (Guard.identify s r) w with
  | mk result w₁ =>
    cases result with
    | ok who => exact Or.inl ⟨who, w₁, run_protect_of_ok hidentify⟩
    | error e => exact Or.inr ⟨e, fun inner => by rw [run_protect_of_error hidentify]⟩

/-- Who is let through is shown who he is, if he asks with one of the methods for it. -/
theorem answers_protected (s : Service) :
    api.Answers r (b.run (onProtectedGet s Api.showIdentity r) w).1 := by
  unfold onProtectedGet
  rw [Backend.run_bind]
  rcases run_protect_cases b s r w with ⟨who, w₁, hthrough⟩ | ⟨e, hproblem⟩
  · rw [hthrough]
    unfold onGet
    by_cases hlook : r.isLook = true
    · rw [if_pos hlook, if_pos hlook]
      exact .identity who
    · rw [if_neg hlook, if_neg hlook]
      exact .methodNotAllowed lookMethods
  · rw [hproblem]
    by_cases hlook : r.isLook = true
    · rw [if_pos hlook]
      exact answers_problem api r e
    · rw [if_neg hlook]
      exact .problem e (some lookMethods)

/-! ### Routes -/

theorem answers_onPost {handler : Request → Action Response}
    (h : r.method = "POST" → api.Answers r (b.run (handler r) w).1) :
    api.Answers r (b.run (onPost handler r) w).1 := by
  unfold onPost
  split
  · rename_i hpost
    exact h hpost
  · exact .methodNotAllowed _

theorem answers_onGet {handler : Request → Action Response}
    (h : api.Answers r (b.run (handler r) w).1) : api.Answers r (b.run (onGet handler r) w).1 := by
  unfold onGet
  split
  · exact h
  · exact .methodNotAllowed _

/-- **The service answers in no other way**, but for what it leaves out for a `HEAD`. -/
theorem run_handle (b : Backend σ) (api : Api) (r : Request) (w : World σ) :
    ∃ response, api.Answers r response ∧ (b.run (api.handle r) w).1 =
      if r.method = "HEAD" then response.bodiless else response := by
  have hall : ∀ handler, api.route? r.path = some handler →
      api.Answers r (b.run (handler r) w).1 := by
    intro handler hroute
    unfold Api.route? at hroute
    split at hroute <;> rename_i hpath <;> cases hroute
    · exact answers_onPost fun hpost => answers_login hpost hpath
    · exact answers_onPost fun hpost => answers_refresh hpost hpath
    · exact answers_onPost fun _ => answers_logout
    · exact answers_onGet .health
    · exact answers_protected api.service
    · exact answers_onGet (answers_problem api r .unauthorized)
  unfold Api.handle
  cases hroute : api.route? r.path with
  | none => exact ⟨_, .notFound, rfl⟩
  | some handler =>
    refine ⟨_, hall handler hroute, ?_⟩
    exact congrArg Prod.fst (Backend.run_bind (handler r) _ w)

/-! ### Failures of the server -/

/-- What a client is told of any failure of the server. -/
def serverProblem : Problem :=
  { kind := .internalServerError, detail := "Internal server error", action := none, cause := none }

/-- All failures of the server are told alike. -/
theorem problem_of_isServerError {e : AuthError} (h : e.isServerError = true) :
    Response.problem e.problem = .problem serverProblem := by
  have hkind : e.kind = .internalServerError := by
    cases e <;> first | rfl | cases h
  unfold AuthError.problem
  rw [if_pos h, hkind]
  rfl

theorem status_of_client {e : AuthError} (h : e.isServerError ≠ true) :
    (Response.problem e.problem).status < 500 := by
  cases e <;> first | decide | exact absurd rfl h

/-- A refused body is a fault of the client's. -/
theorem status_refusedBody (fault : BodyFault) :
    400 ≤ fault.response.status ∧ fault.response.status < 500 := by
  cases fault with
  | notJson | tooLong => decide
  | faulty cause remark =>
    cases cause with
    | malformed => exact (by decide : 400 ≤ 400 ∧ 400 < 500)
    | unfit => exact (by decide : 400 ≤ 422 ∧ 422 < 500)

theorem status_of_tokenResponse {api : Api} {tokens : IssuedTokens} {response : Response}
    (h : api.tokenResponse tokens = .ok response) :
    ∃ cookie, api.cookie.setHeader? tokens.refresh tokens.maxAge = some cookie ∧
      response = { Response.json 200 (TokenBody.toJson ⟨tokens.access⟩) with
        setCookie := some cookie } := by
  unfold Api.tokenResponse Api.header at h
  cases hcookie : api.cookie.setHeader? tokens.refresh tokens.maxAge with
  | none =>
    rw [hcookie] at h
    cases h
  | some cookie =>
    rw [hcookie] at h
    exact ⟨cookie, rfl, (Except.ok.inj h).symm⟩

/-- **Whatever tells of a failure of the server is the same document.** -/
theorem generic_of_answers {response : Response} (h : api.Answers r response)
    (hstatus : 500 ≤ response.status) :
    ∃ allow, response = { Response.problem serverProblem with allow := allow } := by
  cases h with
  | problem e allow =>
    by_cases hserver : e.isServerError = true
    · exact ⟨allow, by rw [problem_of_isServerError hserver]⟩
    · exact absurd hstatus (Nat.not_le.mpr (status_of_client hserver))
  | tokens htokens =>
    obtain ⟨_, _, rfl⟩ := status_of_tokenResponse htokens
    exact absurd hstatus (by decide : ¬ 500 ≤ 200)
  | refusedBody _ => exact absurd hstatus (Nat.not_le.mpr (status_refusedBody _).2)
  | loggedOut _ => exact absurd hstatus (by decide : ¬ 500 ≤ 200)
  | methodNotAllowed allow => exact absurd hstatus (by decide : ¬ 500 ≤ 405)
  | notFound => exact absurd hstatus (by decide)
  | health => exact absurd hstatus (by decide)
  | identity who => exact absurd hstatus (by decide : ¬ 500 ≤ 200)

/-! ### Tokens -/

/-- Escaping neither makes nor loses a dot. -/
theorem count_escape (c : Char) : (Json.escape c).count '.' = [c].count '.' := by
  unfold Json.escape
  split
  iterate 7 rfl
  split
  · rename_i h
    have hlow : c.toNat % 16 < 16 := Nat.mod_lt _ (by decide)
    have hhigh : c.toNat / 16 < 16 := by omega
    have hdigit : ∀ n < 16, Bytes.hexDigit n ≠ '.' := by decide
    have hc : c ≠ '.' := by
      rintro rfl
      revert h
      decide
    simp [hdigit _ hlow, hdigit _ hhigh, hc]
  · rfl

theorem count_string (text : String) :
    (Json.string text).toList.count '.' = text.toList.count '.' := by
  have hescaped : ∀ cs : List Char, (cs.flatMap Json.escape).count '.' = cs.count '.' := by
    intro cs
    induction cs with
    | nil => rfl
    | cons c cs ih =>
      rw [List.flatMap_cons, List.count_append, count_escape, ih, ← List.count_append]
      rfl
  unfold Json.string
  rw [String.toList_ofList, List.count_append, List.count_cons_of_ne (by decide), hescaped]
  rfl

theorem count_intercalate (texts : List String) :
    (String.intercalate "," texts).toList.count '.' = (texts.flatMap String.toList).count '.' := by
  rw [String.toList_intercalate]
  induction texts with
  | nil => rfl
  | cons text more ih =>
    cases more with
    | nil => simp
    | cons next more =>
      simp only [List.map_cons, List.intercalate_cons_cons, List.flatMap_cons, List.count_append]
        at ih ⊢
      rw [ih]
      simp

/-- The dots of an object are those of its names and values. -/
theorem count_object (members : List (String × String)) :
    (Json.object members).toList.count '.' =
      (members.flatMap fun m => m.1.toList ++ m.2.toList).count '.' := by
  have hmembers : ∀ ms : List (String × String),
      ((ms.map fun m => Json.string m.1 ++ ":" ++ m.2).flatMap String.toList).count '.' =
        (ms.flatMap fun m => m.1.toList ++ m.2.toList).count '.' := by
    intro ms
    induction ms with
    | nil => rfl
    | cons m ms ih =>
      simp only [List.map_cons, List.flatMap_cons, List.count_append, String.toList_append,
        count_string, ih]
      simp
  unfold Json.object
  rw [String.toList_append, String.toList_append, List.count_append, List.count_append,
    count_intercalate, hmembers]
  simp

/-- A problem is told with the dots of its texts, and one more in its type. -/
theorem count_document (p : Problem) : p.document.toList.count '.' =
    (p.action.getD "").toList.count '.' + p.detail.toList.count '.' +
      (p.kind.title.toList.count '.' + 1) := by
  have haction : (Json.optional p.action).toList.count '.' =
      (p.action.getD "").toList.count '.' := by
    cases p.action with
    | none => decide
    | some text => exact count_string text
  have hstatus : (toString p.kind.status).toList.count '.' = 0 := by cases p.kind <;> decide
  have htype : ("https://httpstatuses.io/" ++ toString p.kind.status).toList.count '.' = 1 := by
    rw [String.toList_append, List.count_append, hstatus]
    decide
  unfold Problem.document
  rw [count_object]
  simp only [List.flatMap_cons, List.flatMap_nil, List.count_append, haction, count_string,
    hstatus, htype]
  simp
  omega

/-- A token is cut at two dots, so it has them. -/
theorem two_le_count_of_split? {token : String} {t : Token.Compact}
    (h : Token.Compact.split? token = some t) : 2 ≤ token.toList.count '.' := by
  rw [← Token.Compact.append_of_split? h]
  unfold Token.Compact.message
  simp only [List.count_append, List.count_cons_self]
  omega

/-- The response sets no cookie, and nothing that could be a token stands in its body. -/
structure Response.Tokenless (response : Response) : Prop where
  setCookie : response.setCookie = none
  body : ∀ before token after, response.body.toList = before ++ token ++ after →
    Token.Compact.split? (String.ofList token) = none

theorem tokenless_of_count {response : Response} (hcookie : response.setCookie = none)
    (hcount : response.body.toList.count '.' ≤ 1) : response.Tokenless := by
  refine ⟨hcookie, ?_⟩
  intro before token after hbody
  rw [Option.eq_none_iff_forall_ne_some]
  intro t ht
  have htwo := two_le_count_of_split? ht
  rw [String.toList_ofList] at htwo
  rw [hbody, List.count_append, List.count_append] at hcount
  omega

/-- No text of a problem holds a dot. -/
theorem count_problem (e : AuthError) : (Response.problem e.problem).body.toList.count '.' ≤ 1 := by
  have htold : ∀ p : Problem, (p.action.getD "").toList.count '.' + p.detail.toList.count '.' +
      p.kind.title.toList.count '.' = 0 → (Response.problem p).body.toList.count '.' ≤ 1 := by
    intro p h
    have hcount := count_document p
    change p.document.toList.count '.' ≤ 1
    omega
  by_cases hserver : e.isServerError = true
  · rw [problem_of_isServerError hserver]
    exact htold _ (by decide +kernel)
  · refine htold _ ?_
    cases e with
    | configuration _ | database _ | cache _ | internal _ => exact absurd rfl hserver
    | invalidCredentials | tokenInvalid | unauthorized | sessionRevoked | unknownToken
    | invalidFingerprint => decide +kernel

/-- Without a success there is no cookie. -/
theorem setCookie_of_answers {response : Response} (h : api.Answers r response)
    (hstatus : response.status ≠ 200) : response.setCookie = none := by
  cases h with
  | problem e allow => rfl
  | @refusedBody fault _ =>
    cases fault with
    | notJson | tooLong => rfl
    | faulty cause remark => cases cause <;> rfl
  | methodNotAllowed allow => rfl
  | notFound => rfl
  | tokens htokens =>
    obtain ⟨_, _, rfl⟩ := status_of_tokenResponse htokens
    exact absurd rfl hstatus
  | loggedOut _ => exact absurd rfl hstatus
  | health => rfl
  | identity who => rfl

/--
**Without a success there are no tokens** but one that the client has sent: what the reader of a
body has to say of it is the only text that is not the service's own.
-/
theorem tokenless_of_answers {response : Response} (h : api.Answers r response)
    (hstatus : response.status ≠ 200) : response.Tokenless ∨
      ∃ cause, response = (BodyFault.faulty cause r.remark).response ∧ r.Determines response := by
  have hcookie := setCookie_of_answers h hstatus
  cases h with
  | problem e allow => exact Or.inl (tokenless_of_count hcookie (count_problem e))
  | refusedBody hrefused =>
    rcases hrefused.cases with rfl | rfl | ⟨cause, rfl⟩
    · exact Or.inl (tokenless_of_count hcookie (by decide +kernel))
    · exact Or.inl (tokenless_of_count hcookie (by decide +kernel))
    · exact Or.inr ⟨cause, rfl, hrefused.determines⟩
  | methodNotAllowed allow => exact Or.inl (tokenless_of_count hcookie (Nat.zero_le 1))
  | notFound => exact Or.inl (tokenless_of_count hcookie (Nat.zero_le 1))
  | tokens htokens =>
    obtain ⟨_, _, rfl⟩ := status_of_tokenResponse htokens
    exact absurd rfl hstatus
  | loggedOut _ => exact absurd rfl hstatus
  | health => exact absurd rfl hstatus
  | identity who => exact absurd rfl hstatus

/-- What leaves its body out holds no token. -/
theorem Response.tokenless_bodiless {response : Response} (h : response.setCookie = none) :
    response.bodiless.Tokenless :=
  tokenless_of_count h (Nat.zero_le 1)

end SessionAuth.Http
