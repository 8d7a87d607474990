/-
The pair of tokens, wherever it appears.

A successful login or refresh shows its tokens in five places: the body and the cookie of the
response, the claims of either token, and the list of the user's sessions.  They are made from
two encodings and one rounding, and they agree (`Coherent`).  The response with status 200 is
followed back to the call whose result it carries, and the call to the user it was made for
(`Api.Entitles`) and to the commands that it sent.  The seconds of a cookie are counted from the
expiry of its token; at a whole second this is the lifetime itself.  The clock that tokens are
read with counts the seconds since 1970, so it shows no earlier ones.

A response without that status has nothing to show but, when it tells of a body that could not be
read, what the client has put there itself.
-/
import SessionAuth.Proofs.Http.Answer
import SessionAuth.Proofs.Http.Cookie
import SessionAuth.Proofs.Http.Enumeration
import SessionAuth.Proofs.Http.Rejection
import SessionAuth.Proofs.Service.Issued
import SessionAuth.Proofs.Session.Book

namespace SessionAuth.Http

open Session (Registry Entry Fingerprint)

variable {σ : Type} {b : Backend σ} {w : World σ} {api : Api} {r : Request}

/-! ### Back from a status -/

/-- Behind a route for `POST` the status 200 comes from its handler. -/
theorem handle_of_post {handler : Request → Action Response}
    (hroute : api.route? r.path = some (onPost handler))
    (hstatus : (b.run (api.handle r) w).1.status = 200) :
    r.method = "POST" ∧ api.handle r = handler r := by
  by_cases hpost : r.method = "POST"
  · have hhead : r.method ≠ "HEAD" := by
      rw [hpost]
      decide
    exact ⟨hpost, (handle_of_route hroute hhead).trans (onPost_of_post hpost)⟩
  · have hrun : (b.run (api.handle r) w).1 =
        if r.method = "HEAD" then (Response.methodNotAllowed "POST").bodiless
        else .methodNotAllowed "POST" := by
      unfold Api.handle
      rw [hroute]
      dsimp only
      rw [Backend.run_bind, show onPost handler r = pure (.methodNotAllowed "POST") from
        if_neg hpost]
      rfl
    rw [hrun] at hstatus
    split at hstatus <;> exact absurd hstatus (by decide : ¬ 405 = 200)

/-- A body that is not accepted is not answered with status 200. -/
theorem withBody_of_status {α : Type} {read : Bytes → Except Json.Fault α}
    {next : α → Call Response} (h : (b.run (withBody r read next) w).1.status = 200) :
    ∃ body, r.jsonBody read = .ok body ∧ withBody r read next = respond (next body) := by
  cases hbody : r.jsonBody read with
  | ok body =>
    refine ⟨body, rfl, ?_⟩
    unfold withBody
    rw [hbody]
  | error fault =>
    unfold withBody at h
    rw [hbody] at h
    have hstatus : fault.response.status = 200 := h
    have hclient := (status_refusedBody fault).1
    rw [hstatus] at hclient
    exact absurd hclient (by decide)

/-- Status 200 is the result of the call for the body that was sent. -/
theorem result_of_status {α : Type} {handler : Request → Action Response}
    {read : Bytes → Except Json.Fault α} {next : α → Call Response}
    (hroute : api.route? r.path = some (onPost handler)) (hnext : handler r = withBody r read next)
    (hstatus : (b.run (api.handle r) w).1.status = 200) :
    r.method = "POST" ∧ ∃ body response w', r.jsonBody read = .ok body ∧
      b.runCall (next body) w = (.ok response, w') ∧ b.run (api.handle r) w = (response, w') := by
  obtain ⟨hpost, hhandle⟩ := handle_of_post hroute hstatus
  rw [hhandle, hnext] at hstatus ⊢
  obtain ⟨body, hbody, hwith⟩ := withBody_of_status hstatus
  rw [hwith] at hstatus ⊢
  obtain ⟨response, w', hcall, hrun⟩ := runCall_of_status hstatus
  exact ⟨hpost, body, response, w', hbody, hcall, hrun⟩

/-! ### Whom tokens are made for -/

/--
The request asks for tokens of this user: it logs in with the user's login and password, or
presents a refresh token of the user.
-/
inductive Api.Entitles (api : Api) (users : List User) (now : Instant) (r : Request) :
    User → Fingerprint → Prop
  | login {body : LoginBody} {fingerprint : Fingerprint} {user : User}
    (h : r.IsLogin body fingerprint) (hfind : users.find? (·.hasLogin body.login) = some user)
    (hverify : api.service.verify user.passwordHash (.ofTyped body.password) = true) :
    Entitles api users now r user fingerprint
  | refresh {fingerprint : Fingerprint} {user : User} (h : r.IsRefresh fingerprint)
    (hresolves : api.service.Resolves users now (api.refreshToken r) .refresh user) :
    Entitles api users now r user fingerprint

variable {x : Setup} {v : World x.Store}

/-- **Status 200 tells of a session that was opened** for a user who is entitled to it. -/
theorem opened_of_status (hpath : r.path = "/v1/auth/login" ∨ r.path = "/v1/auth/refresh")
    (hstatus : (x.deployment.run (api.handle r) v).1.status = 200) :
    ∃ user fingerprint tokens last, api.Entitles (x.users v.store) v.now r user fingerprint ∧
      Service.HasOpened x.deployment.toBackend api.service user.id fingerprint v.now tokens last ∧
      api.tokenResponse tokens = .ok (x.deployment.run (api.handle r) v).1 ∧
      (x.deployment.run (api.handle r) v).2.store = (x.deployment.users 0 .commit last).2 := by
  rcases hpath with hpath | hpath
  · have hroute : api.route? r.path = some (onPost api.login) := by
      rw [hpath]
      rfl
    obtain ⟨hpost, body, response, w', hbody, hcall, hrun⟩ := result_of_status hroute rfl hstatus
    obtain ⟨fingerprint, tokens, haccepts, htokens, hresponse⟩ := tokens_of_runCall hcall
    obtain ⟨user, last, hfound, hverify, hopened, hlast⟩ := Service.login_eq_ok htokens
    have hfind : (x.users _).find? (·.hasLogin body.login) = some user :=
      x.fits.find?_of_findByLogin 0 body.login _ user hfound
    rw [Setup.users_perform] at hfind
    rw [hrun]
    exact ⟨user, fingerprint, tokens, last,
      .login ⟨hpost, hpath, hbody, haccepts⟩ hfind hverify, hopened, hresponse, hlast⟩
  · have hroute : api.route? r.path = some (onPost api.refresh) := by
      rw [hpath]
      rfl
    obtain ⟨hpost, body, response, w', hbody, hcall, hrun⟩ := result_of_status hroute rfl hstatus
    obtain ⟨fingerprint, tokens, haccepts, htokens, hresponse⟩ := tokens_of_runCall hcall
    obtain ⟨payload, id, user, last, hopen, hkind, hid, hfound, hopened, hlast⟩ :=
      Service.refresh_eq_ok htokens
    have hfind : (x.users _).find? (·.id == id) = some user :=
      x.fits.find?_of_findById 0 id _ user hfound
    rw [Setup.users_perform] at hfind
    rw [hrun]
    exact ⟨user, fingerprint, tokens, last,
      .refresh ⟨hpost, hpath, body, hbody, haccepts⟩ ⟨payload, id, hopen, hkind, hid, hfind⟩,
      hopened, hresponse, hlast⟩

/-! ### The five places -/

/-- The token is accepted, and this is what it says. -/
def Api.Reads (api : Api) (now : Instant) (token : String) (payload : Token.Payload) : Prop :=
  Token.Codec.open? api.service.codec.verificationKey api.service.codec.algorithm now token =
    some payload

/--
A pair of tokens of a user, in a response and in the store that is left: the refresh token is in
the cookie and the access token in the body, either says whose it is and of what kind, and the
session of the refresh token is in front of the user's list.  Cookie, token and list last for the
lifetime of refresh tokens.
-/
structure Coherent (x : Setup) (api : Api) (user : UserId) (fingerprint : Fingerprint)
    (now : Instant) (refresh access : String) (response : Response) (store : x.Store) : Prop where
  cookie : response.setCookie =
    some (api.cookie.set refresh (some api.service.codec.refreshLifetime.seconds))
  body : response.body = TokenBody.toJson ⟨access⟩
  refreshClaims : ∃ payload, api.Reads now refresh payload ∧ payload.kind = some .refresh ∧
    payload.subject = user.toHex ∧
    payload.expiresAt = now.seconds + api.service.codec.refreshLifetime.seconds
  accessClaims : ∃ payload, api.Reads now access payload ∧ payload.kind = some .access ∧
    payload.subject = user.toHex
  listed : ∃ older, x.deployment.list now ("auth:" ++ user.toHex) store =
    (Entry.encode ⟨fingerprint.text, refresh⟩ :: older,
      some api.service.codec.refreshLifetime.seconds)

/-- The cookie and the body of a response are those of its tokens. -/
theorem shown_of_tokenResponse {tokens : IssuedTokens} {response : Response}
    (h : api.tokenResponse tokens = .ok response) :
    response.setCookie = some (api.cookie.set tokens.refresh (some tokens.maxAge)) ∧
      response.body = TokenBody.toJson ⟨tokens.access⟩ := by
  obtain ⟨cookie, hcookie, rfl⟩ := status_of_tokenResponse h
  refine ⟨?_, rfl⟩
  unfold Cookie.setHeader? HeaderValue.ofText? at hcookie
  split at hcookie
  · exact congrArg some (Option.some.inj hcookie).symm
  · cases hcookie

/-- **A session that was opened at a whole second is coherent.** -/
theorem coherent_of_opened {user : UserId} {fingerprint : Fingerprint} {second : Nat}
    {tokens : IssuedTokens} {response : Response} {last : x.Store}
    (hown : api.service.codec.ChecksOwn)
    (h : Service.HasOpened x.deployment.toBackend api.service user fingerprint (.ofSeconds second)
      tokens last) (hresponse : api.tokenResponse tokens = .ok response) :
    Coherent x api user fingerprint (.ofSeconds second) tokens.refresh tokens.access response
      (x.deployment.users 0 .commit last).2 := by
  obtain ⟨hgrants, hpos, _⟩ := h.issues.grants
  obtain ⟨hcookie, hbody⟩ := shown_of_tokenResponse hresponse
  obtain ⟨_, _, hrefresh⟩ := h.issues.refresh
  obtain ⟨_, _, _, haccess⟩ := h.issues.access
  obtain ⟨_, hregisters⟩ := h.registers
  obtain ⟨older, hlist⟩ := Setup.list_registers hpos hregisters
  have hnow : 0 ≤ (Instant.ofSeconds (second : Int)).seconds := by
    rw [Instant.seconds_ofSeconds]
    exact Int.natCast_nonneg second
  constructor
  case cookie => rw [hcookie, hgrants.maxAge]
  case body => exact hbody
  case refreshClaims =>
    exact ⟨_, Token.Codec.open?_at_once hown rfl rfl hrefresh hnow, rfl, rfl, rfl⟩
  case accessClaims => exact ⟨_, Token.Codec.open?_at_once hown rfl rfl haccess hnow, rfl, rfl⟩
  case listed =>
    refine ⟨older, (Setup.list_users _).trans ?_⟩
    rw [← hgrants.maxAge]
    exact hlist

/-! ### Headers for tokens

That a response can carry the tokens depends on the configuration only: on the name and the path
of the cookie, and never on the token.
-/

/-- With a name and a path for headers, nothing keeps the tokens from being shown. -/
theorem tokenResponse_of_visible (hname : IsWritable api.cookie.name)
    (hpath : IsWritable api.cookie.path) {tokens : IssuedTokens} (h : AllVisible tokens.refresh) :
    api.tokenResponse tokens = .ok { Response.json 200 (TokenBody.toJson ⟨tokens.access⟩) with
      setCookie := some (api.cookie.set tokens.refresh (some tokens.maxAge)) } := by
  unfold Api.tokenResponse
  rw [setHeader?_of_visible hname hpath h]
  rfl

/-! ### All requests -/

/--
**The pair of tokens is coherent wherever it appears.**  In every setup and every state, at a
whole second since 1970, with a codec that checks its own signatures: a request to log in or to refresh that
is answered with status 200 was entitled to tokens of some user, and the tokens in the response
are a coherent pair of that user.  And over every backend, whatever the route, a response with
another status sets no cookie and holds no token but what the request itself carried: only the
response to a body that could not be read ends with a text that is not the service's own, what
the reader says of that body, and the request alone determines this response, whatever service is
asked, over whatever backend and in whatever state.
-/
theorem issued_pair_coherent (api : Api) (r : Request) :
    (∀ (x : Setup) (second : Nat) (w : World x.Store), api.service.codec.ChecksOwn →
      w.now = .ofSeconds second → (r.path = "/v1/auth/login" ∨ r.path = "/v1/auth/refresh") →
      (x.deployment.run (api.handle r) w).1.status = 200 →
      ∃ user fingerprint refresh access,
        api.Entitles (x.users w.store) w.now r user fingerprint ∧
        Coherent x api user.id fingerprint w.now refresh access
          (x.deployment.run (api.handle r) w).1 (x.deployment.run (api.handle r) w).2.store) ∧
    ∀ (σ : Type) (b : Backend σ) (w : World σ), (b.run (api.handle r) w).1.status ≠ 200 →
      (b.run (api.handle r) w).1.setCookie = none ∧
      ((b.run (api.handle r) w).1.Tokenless ∨
        ∃ cause, (b.run (api.handle r) w).1 = (BodyFault.faulty cause r.remark).response ∧
          r.Determines (b.run (api.handle r) w).1) := by
  constructor
  · intro x second w hown hnow hpath hstatus
    obtain ⟨user, fingerprint, tokens, last, hentitles, hopened, hresponse, hlast⟩ :=
      opened_of_status hpath hstatus
    rw [hnow] at hopened
    refine ⟨user, fingerprint, tokens.refresh, tokens.access, hentitles, ?_⟩
    rw [hnow, hlast]
    exact coherent_of_opened hown hopened hresponse
  · intro σ b w hstatus
    obtain ⟨response, hanswers, hrun⟩ := run_handle b api r w
    rw [hrun] at hstatus ⊢
    split at hstatus <;> rename_i hhead
    · rw [if_pos hhead]
      have hcookie := setCookie_of_answers hanswers hstatus
      exact ⟨hcookie, Or.inl (Response.tokenless_bodiless hcookie)⟩
    · rw [if_neg hhead]
      exact ⟨setCookie_of_answers hanswers hstatus, tokenless_of_answers hanswers hstatus⟩

namespace Sample

/-- A user whose password is one character. -/
def zoe : User := { id := ⟨3⟩, login := "zoe", passwordHash := "z" }

def zoesWorld : World Service.Store := ⟨({}, { users := [zoe] }), .ofSeconds 0, ⟨[], 0⟩, []⟩

def zoesLogin : Request :=
  loginAs "\x7b\"login\":\"zoe\",\"password\":\"z\",\"fingerprint\":\"laptop\"\x7d"

theorem isLogin_zoesLogin : zoesLogin.IsLogin ⟨"zoe", "z", "laptop"⟩ Service.Sample.fingerprint :=
  ⟨rfl, rfl, rfl, rfl⟩

theorem verified_zoe :
    (Service.Sample.service 3).verified [zoe] "zoe" (.ofTyped "z") = .ok zoe := by
  have hfind : [zoe].find? (·.hasLogin "zoe") = some zoe :=
    List.find?_cons_of_pos (beq_iff_eq.mpr rfl)
  unfold Service.verified
  rw [hfind]
  rfl

/-- Zoe's login succeeds. -/
theorem status_zoesLogin :
    (Setup.inMemory.deployment.run (Sample.api.handle zoesLogin) zoesWorld).1.status = 200 := by
  obtain ⟨tokens, hissues, w', halone, _⟩ := Service.Alone.login_ok (w := zoesWorld) Entropy.bits 0
    Service.Sample.fingerprint verified_zoe (Service.Sample.canMint _ (by decide) (by decide))
  obtain ⟨_, hvalue, hlogin⟩ := halone.map_eq_ok
  cases hvalue
  unfold Service.Alone at hlogin
  rw [Service.handleWith_bits] at hlogin
  have hcall : Setup.inMemory.deployment.runCall
      (Sample.api.service.login "zoe" (.ofTyped "z") Service.Sample.fingerprint) zoesWorld =
        (.ok tokens, w') := hlogin
  obtain ⟨_, _, hminted⟩ := hissues.refresh
  have hresponse : Sample.api.tokenResponse tokens = _ :=
    tokenResponse_of_visible (by decide) (by decide) (Token.Codec.allVisible_of_mint hminted).1
  have hanswered : Setup.inMemory.deployment.runCall (Sample.api.answered
      (Sample.api.service.login "zoe" (.ofTyped "z") Service.Sample.fingerprint)) zoesWorld =
        (Sample.api.tokenResponse tokens, w') := Backend.runCall_bind_of_ok hcall
  rw [hresponse] at hanswered
  rw [handle_login isLogin_zoesLogin, run_respond_of_ok hanswered]
  rfl

/-- The body is no object but a text of three parts, as a token is, and the reader says so. -/
def quoted : Request := { loginAs "\"a.b.c\"" with
  remark := "invalid type: string \"a.b.c\", expected struct LoginRequest at line 1 column 7" }

theorem isRefused_quoted : quoted.IsRefused (.faulty .unfit quoted.remark) := .login rfl rfl rfl

/-- The response gives the text back. -/
theorem not_tokenless_quoted : ¬ (BodyFault.faulty .unfit quoted.remark).response.Tokenless := by
  intro h
  have hnone := h.body
    ("Failed to deserialize the JSON body into the target type: invalid type: string \"").toList
    ("a.b.c").toList ("\", expected struct LoginRequest at line 1 column 7").toList
    (by decide +kernel)
  revert hnone
  decide +kernel

end Sample

/-- The tokens that Zoe gets are hers, Eve gets none, and a text in place of a body comes back. -/
theorem issued_pair_coherent_zoe : Service.Sample.codec.ChecksOwn ∧
    Sample.zoesWorld.now = .ofSeconds (0 : Nat) ∧
    (Setup.inMemory.deployment.run (Sample.api.handle Sample.zoesLogin) Sample.zoesWorld).1.status =
      200 ∧
    (∃ user fingerprint refresh access,
      Sample.api.Entitles [Sample.zoe] (.ofSeconds 0) Sample.zoesLogin user fingerprint ∧
      Coherent .inMemory Sample.api user.id fingerprint (.ofSeconds 0) refresh access
        (Setup.inMemory.deployment.run (Sample.api.handle Sample.zoesLogin) Sample.zoesWorld).1
        (Setup.inMemory.deployment.run (Sample.api.handle Sample.zoesLogin)
          Sample.zoesWorld).2.store) ∧
    (Setup.inMemory.deployment.run (Sample.api.handle Sample.eve) Sample.zoesWorld).1.status = 401 ∧
    (Setup.inMemory.deployment.run (Sample.api.handle Sample.eve) Sample.zoesWorld).1.Tokenless ∧
    (Setup.inMemory.deployment.run (Sample.api.handle Sample.quoted) Sample.zoesWorld).1.status =
      422 ∧
    ¬ (Setup.inMemory.deployment.run (Sample.api.handle Sample.quoted)
      Sample.zoesWorld).1.Tokenless ∧
    Sample.quoted.Determines
      (Setup.inMemory.deployment.run (Sample.api.handle Sample.quoted) Sample.zoesWorld).1 := by
  have hrefused :
      (Setup.inMemory.deployment.run (Sample.api.handle Sample.eve) Sample.zoesWorld).1.status =
        401 := rfl
  have hquoted : (Setup.inMemory.deployment.run (Sample.api.handle Sample.quoted)
      Sample.zoesWorld).1 = (BodyFault.faulty .unfit Sample.quoted.remark).response :=
    congrArg Prod.fst (Sample.isRefused_quoted.determines Sample.api _ _ Sample.zoesWorld)
  have hgiven : ¬ (Setup.inMemory.deployment.run (Sample.api.handle Sample.quoted)
      Sample.zoesWorld).1.Tokenless := by
    rw [hquoted]
    exact Sample.not_tokenless_quoted
  refine ⟨Service.Sample.checksOwn, rfl, Sample.status_zoesLogin, ?_, hrefused, ?_,
    by rw [hquoted]; rfl, hgiven, ?_⟩
  · exact (issued_pair_coherent Sample.api Sample.zoesLogin).1 .inMemory 0 Sample.zoesWorld
      Service.Sample.checksOwn rfl (Or.inl rfl) Sample.status_zoesLogin
  · have hresponse := (issued_pair_coherent Sample.api Sample.eve).2 _
      Setup.inMemory.deployment.toBackend Sample.zoesWorld fun hok =>
        absurd (hrefused.symm.trans hok) (by decide)
    refine hresponse.2.resolve_right ?_
    rintro ⟨cause, hbody, _⟩
    rw [hbody] at hrefused
    cases cause <;> exact absurd hrefused (by decide)
  · have hresponse := (issued_pair_coherent Sample.api Sample.quoted).2 _
      Setup.inMemory.deployment.toBackend Sample.zoesWorld (by rw [hquoted]; decide)
    obtain ⟨_, _, hdetermines⟩ := hresponse.2.resolve_left hgiven
    exact hdetermines

end SessionAuth.Http
