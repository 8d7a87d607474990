/-
The log keeps secrets.

Two requests to log in with one login, to refresh or to log out may differ in what is secret: in
the password or the token, and in the fingerprint.  If they fare alike all the same
(`Service.Request.Conceals`), they are carried out in tandem
(`Proofs/Service/Secrecy.lean`), whatever mishaps befall both, and at the end both logs are the
same.  That is so of the service itself and of what its routes report when a call has failed
(`logs_keep_secrets`).

What is shown of a value in diagnostics does not depend on its secrets either.
-/
import SessionAuth.Proofs.Http.Enumeration
import SessionAuth.Proofs.Service.Reports
import SessionAuth.Proofs.Service.Secrecy

namespace SessionAuth

open Session (Fingerprint Registry)

variable {α : Type} {x : Setup} {unit : Nat} {mishaps : Nat → Option Mishap}

/-! ### What is in the log -/

namespace Setup

/-- The log after an action, some of whose requests meet with mishaps. -/
def logged (x : Setup) (unit : Nat) (mishaps : Nat → Option Mishap) (action : Action α)
    (w : World x.Store) : List Event :=
  (Program.run (x.deployment.attempts unit mishaps) action (w, 0)).2.1.events

namespace Tandem

variable {P : World x.Store → World x.Store → Prop} {w : World x.Store}

/-- Calls in tandem leave the same in the log. -/
theorem logged_eq {call call' : Call α}
    (h : x.Tandem unit mishaps P call call' (Same (x.ButForLists unit))) (hw : P w w) :
    x.logged unit mishaps call'.run w = x.logged unit mishaps call.run w := by
  unfold logged
  rcases h.runs hw 0 with ⟨_, _, _, _, _, hrun, hrun', hvalue⟩ | ⟨_, _, _, _, hrun, hrun', hworlds⟩
  · rw [hrun, hrun']
    exact hvalue.2.events
  · rw [hrun, hrun']
    exact hworlds.events

/-- So do the responses to them: an error that is responded with is the same on both sides. -/
theorem logged_respond {call call' : Call Http.Response}
    (h : x.Tandem unit mishaps P call call' (Same (x.ButForLists unit))) (hw : P w w) :
    x.logged unit mishaps (Http.respond call') w = x.logged unit mishaps (Http.respond call) w := by
  unfold logged Http.respond
  rw [Program.bind_eq, Program.bind_eq, Program.run_bind, Program.run_bind]
  rcases h.runs hw 0 with ⟨_, _, _, _, _, hrun, hrun', hvalue⟩ | ⟨_, _, _, _, hrun, hrun', hworlds⟩
  · rw [hrun, hrun']
    exact hvalue.2.events
  · rw [hrun, hrun']
    exact congrArg (· ++ [_]) hworlds.events

end Tandem

/-- In memory and without mishaps it is the log that the call leaves when it runs by itself. -/
theorem logged_of_alone {call : Call α} {result : Except AuthError α} {w w' : World Service.Store}
    (h : Service.Alone Entropy.bits 0 call w result w') :
    inMemory.logged 0 (fun _ => none) call.run w = w'.events := by
  have hrun : ∀ (p : Action (Except AuthError α)) (w : World Service.Store) (n : Nat),
      (Program.run (inMemory.deployment.attempts 0 fun _ => none) p (w, n)).2.1 =
        (Program.run (Service.inMemory.handle 0) p w).2 := by
    intro p
    induction p with
    | done value => exact fun _ _ => rfl
    | ask e next ih =>
      intro w n
      cases e <;> exact ih _ _ _
  unfold Service.Alone at h
  rw [Service.handleWith_bits] at h
  unfold logged
  rw [hrun, h]

end Setup

namespace Http

/-! ### What a request asks for -/

/-- The call that a route makes of what is asked of the service. -/
def Api.answer (api : Api) : Service.Request → Call Response
  | .login login password fingerprint =>
    api.answered (api.service.login login password fingerprint)
  | .refresh fingerprint token => api.answered (api.service.refresh fingerprint token)
  | .logout token => do
    api.service.logout token
    let cookie ← Call.ofExcept (Api.header api.cookie.deleteHeader?)
    return { Response.json 200 (StatusBody.toJson ⟨true⟩) with setCookie := some cookie }

/-- What a request that is accepted asks of the service. -/
inductive Request.Asks (api : Api) (r : Request) : Service.Request → Prop
  | login {body : LoginBody} {fingerprint : Fingerprint} (h : r.IsLogin body fingerprint) :
    Asks api r (.login body.login (.ofTyped body.password) fingerprint)
  | refresh {fingerprint : Fingerprint} (h : r.IsRefresh fingerprint) :
    Asks api r (.refresh fingerprint (api.refreshToken r))
  | logout (hmethod : r.method = "POST") (hpath : r.path = "/v1/auth/logout") :
    Asks api r (.logout (api.refreshToken r))

variable {api : Api}

theorem handle_of_asks {r : Request} {q : Service.Request} (h : r.Asks api q) :
    api.handle r = respond (api.answer q) := by
  cases h with
  | login h => exact handle_login h
  | refresh h => exact handle_refresh h
  | logout hmethod hpath => exact handle_logout hmethod hpath

open Setup (Still Tandem Same)

/-- Whatever a response is made of is the same on both sides. -/
theorem answer_tandem {start : World x.Store} {q q' : Service.Request}
    (h : q.Conceals x api.service start api.service.registry.leaves? q') :
    x.Tandem unit mishaps (x.Still start) (api.answer q) (api.answer q')
      (Same (x.ButForLists unit)) := by
  have hresult : ∀ {β : Type} (result : Except AuthError β), x.Tandem unit mishaps
      (x.ButForLists unit) (Call.ofExcept result) (Call.ofExcept result)
      (Same (x.ButForLists unit)) := fun result => .ofExcept (fun _ _ h => h) result
  cases h with
  | login hverdict =>
    exact (Service.login_tandem hverdict _ _).bind_same fun tokens => hresult _
  | refresh hreads hfinds =>
    exact (Service.refresh_tandem hreads hfinds).bind_same fun tokens => hresult _
  | logout hreads hfinds =>
    exact (Service.logout_tandem hreads hfinds).bind_same fun _ =>
      (hresult _).bind_same fun cookie => .pure fun _ _ h => ⟨rfl, h⟩

/-! ### All runs, and all that is shown -/

/-- What shows of a value in diagnostics is the same when something else is secret in it. -/
structure SecretsUnshown : Prop where
  body : ∀ (b : LoginBody) (password : String),
    LoginBody.describe { b with password := password } = b.describe
  password : ∀ p p' : Password.ClearText, p'.describe = p.describe
  user : ∀ (u : User) (passwordHash : String),
    User.describe { u with passwordHash := passwordHash } = u.describe
  config : ∀ (c : Config) (signingKey verificationKey : Bytes) (pepper : Option Bytes),
    Config.describe { c with
      signingKey := signingKey, verificationKey := verificationKey, pepper := pepper } = c.describe
  hasher : ∀ pepper pepper' : Bytes,
    Password.Hasher.describe ⟨some pepper'⟩ = Password.Hasher.describe ⟨some pepper⟩
  codec : ∀ (c : Token.Codec) (signingKey : Token.SigningKey)
    (verificationKey : Token.VerificationKey), Token.Codec.describe { c with
      signingKey := signingKey, verificationKey := verificationKey } = c.describe

theorem secretsUnshown : SecretsUnshown :=
  ⟨fun _ _ => rfl, fun _ _ => rfl, fun _ _ => rfl, fun _ _ _ _ => rfl, fun _ _ => rfl,
    fun _ _ _ => rfl⟩

/--
**The log does not depend on secrets.**  Over every setup, from every world and with the same
mishaps, two requests that differ in a password or a token and in the fingerprint leave the same
log, if the passwords are both right or both wrong, or the tokens are both refused or read alike
and what they find in the list of their user is alike: for a logout, a session or none, and for a
refresh, a session or none and the same number of sessions to be reported when it is gone.  Where
no session is in the list twice, or no more of them than are allowed, a session or none is enough.
The same log is left when the requests come in over HTTP and a failed call is responded to.

Nor does what is shown of a value depend on the password, the hash, the keys or the pepper in it.
-/
theorem logs_keep_secrets (api : Api) :
    (∀ (x : Setup) (unit : Nat) (mishaps : Nat → Option Mishap) (w : World x.Store)
      (q q' : Service.Request),
      q.Conceals x api.service w api.service.registry.leaves? q' ∨
          q.Conceals x api.service w (fun _ found => found.isSome) q' ∧
            q.Uncrowded x api.service w →
      x.logged unit mishaps (api.service.serve q').run w =
          x.logged unit mishaps (api.service.serve q).run w ∧
        ∀ r r' : Request, r.Asks api q → r'.Asks api q' →
          x.logged unit mishaps (api.handle r') w = x.logged unit mishaps (api.handle r) w) ∧
    SecretsUnshown := by
  refine ⟨?_, secretsUnshown⟩
  intro x unit mishaps w q q' h
  have hconceals : q.Conceals x api.service w api.service.registry.leaves? q' := by
    rcases h with hleaves | ⟨hfinds, hroom⟩
    · exact hleaves
    · exact hfinds.of_isSome hroom
  refine ⟨(Service.serve_tandem hconceals).logged_eq (Still.refl w), ?_⟩
  intro r r' hr hr'
  rw [handle_of_asks hr, handle_of_asks hr']
  exact (answer_tandem hconceals).logged_respond (Still.refl w)

/-! ### Two sessions of Ada -/

namespace Sample

open Service (sessions withCache)
open Service.Sample (ada codec service world fingerprint tablet)

/-- A refresh token that Ada may have been given. -/
def tokenOf (id : UserId) : String :=
  codec.sharedToken .sha256
    (codec.payloadOf (.ofSeconds 0) id ada.id.toHex (some .refresh) {})

/-- These are Ada's sessions. -/
def holding (l : List (Fingerprint × String)) : World Service.Store :=
  withCache world (l.foldr (fun session m => m.push (.ofSeconds 0) (Registry.key ada.id)
    (Registry.stored session) (some 86400)) {})

theorem sessions_holding (l : List (Fingerprint × String)) :
    sessions (holding l) (Registry.key ada.id) = l.map Registry.stored := by
  unfold holding
  rw [Service.sessions_withCache]
  show Cache.Memory.values _ (.ofSeconds 0) _ = _
  induction l with
  | nil => rfl
  | cons session l ih =>
    rw [List.foldr_cons, Cache.Memory.values_push_self (by decide), ih, List.map_cons]

theorem stored_ne (token token' : String) :
    Registry.stored (fingerprint, token) ≠ Registry.stored (tablet, token') := by
  intro h
  have hstart := congrArg (fun text => text.toList.head?) h
  unfold Registry.stored Session.Entry.encode at hstart
  simp only [String.toList_append, fingerprint, tablet] at hstart
  cases hstart

theorem open?_tokenOf (id : UserId) :
    Token.Codec.open? codec.verificationKey codec.algorithm (.ofSeconds 0) (tokenOf id) =
      some (codec.payloadOf (.ofSeconds 0) id ada.id.toHex (some .refresh) {}) :=
  Service.Sample.open?_minted (by decide)
    (Service.Sample.mint_eq id ada.id (Service.Sample.zeros 512) .refresh 0 (by decide) (by decide))

section Holding

variable {s : Service} {l : List (Fingerprint × String)} {f f' : Fingerprint} {id id' : UserId}

theorem bearer_tokenOf (hcodec : s.codec = codec) (id : UserId) :
    s.bearer [ada] (.ofSeconds 0) (tokenOf id) = .ok ada := by
  let payload := codec.payloadOf (.ofSeconds 0) id ada.id.toHex (some .refresh) {}
  have huser : payload.user = .ok ada.id := by
    unfold Token.Payload.user
    rw [show payload.subject = ada.id.toHex from rfl, UserId.parse?_toHex]
  refine Service.bearer_eq_ok ?_ huser (List.find?_cons_of_pos (beq_iff_eq.mpr rfl)) rfl
  rw [hcodec]
  exact open?_tokenOf id

theorem reads_tokenOf (hcodec : s.codec = codec) (id : UserId) :
    s.reads (.ofSeconds 0) (tokenOf id) = some (ada.id.toHex, some .refresh) := by
  unfold Service.reads
  rw [hcodec, open?_tokenOf]
  rfl

theorem find?_holding (hmem : (f, tokenOf id) ∈ l) (hcolon : f.endsInColon = false) :
    Registry.find? f.text (tokenOf id) (sessions (holding l) (Registry.key ada.id)) =
      some (Registry.stored (f, tokenOf id)) := by
  have hbearer := bearer_tokenOf (s := service 1) rfl id
  rw [sessions_holding]
  exact Registry.find?_stored (Service.names_of_bearer hbearer).head?_ne hmem hcolon

theorem entries?_holding (hcodec : s.codec = codec) :
    s.entries? .inMemory (holding l) (tokenOf id) = some (l.map Registry.stored) := by
  have hbearer : s.bearer (Setup.inMemory.users (holding l).store) (holding l).now (tokenOf id) =
      .ok ada := bearer_tokenOf hcodec id
  unfold Service.entries?
  rw [hbearer, ← sessions_holding]
  rfl

/-- Both sessions are there. -/
theorem conceals_holding (hcodec : s.codec = codec) (hmem : (f, tokenOf id) ∈ l)
    (hmem' : (f', tokenOf id') ∈ l) (hcolon : f.endsInColon = false)
    (hcolon' : f'.endsInColon = false) :
    Service.Request.Conceals .inMemory s (holding l) (fun _ found => found.isSome)
      (.refresh f (tokenOf id)) (.refresh f' (tokenOf id')) := by
  have hreads : ∀ id, s.reads (holding l).now (tokenOf id) = some (ada.id.toHex, some .refresh) :=
    reads_tokenOf hcodec
  refine .refresh ((hreads id').trans (hreads id).symm) ?_
  intro entries hentries
  rw [entries?_holding hcodec, Option.some_inj, ← sessions_holding] at hentries
  rw [← hentries, find?_holding hmem hcolon, find?_holding hmem' hcolon', Option.isSome_some,
    Option.isSome_some]

/-- What a refresh of a session of Ada reports. -/
theorem logged_holding (maxSessions : Nat) (hmem : (f, tokenOf id) ∈ l)
    (hcolon : f.endsInColon = false) :
    ∃ expiresAt, Setup.inMemory.logged 0 (fun _ => none)
        ((service maxSessions).serve (.refresh f (tokenOf id))).run (holding l) =
      Registry.reports ⟨maxSessions⟩ ada.id
          ((l.map Registry.stored).filter (· != Registry.stored (f, tokenOf id))).length ++
        [.refreshed ada.id expiresAt] := by
  have hbearer : (service maxSessions).bearer (holding l).store.2.users (holding l).now
      (tokenOf id) = .ok ada := bearer_tokenOf rfl id
  obtain ⟨tokens, w', halone, hevents⟩ := Service.Alone.refresh_reports Entropy.bits 0 hbearer
    (find?_holding hmem hcolon) (Service.Sample.canMint _ (by decide) (by decide))
  refine ⟨tokens.expiresAt, ?_⟩
  rw [Setup.logged_of_alone halone, hevents, sessions_holding]
  rfl

end Holding

/-- Ada's wrong guess once more, with another password and from another place. -/
def adaGuessedAgain : Request :=
  loginAs "\x7b\"login\":\"ada\",\"password\":\"swordfish\",\"fingerprint\":\"tablet\"\x7d"

theorem isLogin_adaGuessedAgain : adaGuessedAgain.IsLogin ⟨"ada", "swordfish", "tablet"⟩ tablet :=
  ⟨rfl, rfl, rfl, rfl⟩

end Sample

open Service.Sample (fingerprint tablet) in
open Sample in
/-- Ada has a session on each of two devices, and refreshes one of them or the other. -/
theorem logs_keep_secrets_devices :
    let w := holding [(tablet, tokenOf ⟨2⟩), (fingerprint, tokenOf ⟨1⟩)]
    Setup.inMemory.logged 0 (fun _ => none)
        (strictApi.service.serve (.refresh tablet (tokenOf ⟨2⟩))).run w =
      Setup.inMemory.logged 0 (fun _ => none)
        (strictApi.service.serve (.refresh fingerprint (tokenOf ⟨1⟩))).run w ∧
    Setup.inMemory.logged 0 (fun _ => none) (strictApi.handle adaGuessedAgain) w =
      Setup.inMemory.logged 0 (fun _ => none) (strictApi.handle adaGuessed) w := by
  intro w
  obtain ⟨hlogs, _⟩ := logs_keep_secrets strictApi
  constructor
  · have hconceals : Service.Request.Conceals .inMemory strictApi.service w
        (fun _ found => found.isSome) (.refresh fingerprint (tokenOf ⟨1⟩))
        (.refresh tablet (tokenOf ⟨2⟩)) :=
      conceals_holding rfl (List.mem_cons_of_mem _ List.mem_cons_self) List.mem_cons_self
        (by decide) (by decide)
    have hroom : Service.Request.Uncrowded .inMemory strictApi.service w
        (.refresh fingerprint (tokenOf ⟨1⟩)) := by
      intro token htoken entries hentries
      obtain rfl := Option.some.inj htoken
      obtain rfl := Option.some.inj ((entries?_holding rfl).symm.trans hentries)
      exact Or.inr (by decide)
    exact (hlogs .inMemory 0 (fun _ => none) w _ _ (Or.inr ⟨hconceals, hroom⟩)).1
  · have hada : (Setup.inMemory.users w.store).find? (·.hasLogin "ada") = some Service.Sample.ada :=
      List.find?_cons_of_pos (beq_iff_eq.mpr rfl)
    -- What is stored for Ada is no hash, so no password belongs to it.
    have hrejected : ∀ password,
        strictApi.service.verify Service.Sample.ada.passwordHash password = false := fun _ => rfl
    have hconceals : Service.Request.Conceals .inMemory strictApi.service w
        strictApi.service.registry.leaves? (.login "ada" (.ofTyped "guess") fingerprint)
        (.login "ada" (.ofTyped "swordfish") tablet) := by
      refine .login fun user hfound => ?_
      obtain rfl := Option.some.inj (hada.symm.trans hfound)
      rw [hrejected, hrejected]
    exact (hlogs .inMemory 0 (fun _ => none) w _ _ (Or.inl hconceals)).2 _ _
      (.login isLogin_adaGuessed) (.login isLogin_adaGuessedAgain)

open Service.Sample (fingerprint tablet) in
open Sample in
/--
But a session or none is not enough: of three entries in a full list two may be copies of one
session, which are taken out together, so one refresh leaves a full list and another one does not.
-/
theorem not_forall_logged_eq : ¬ ∀ (x : Setup) (unit : Nat) (mishaps : Nat → Option Mishap)
    (s : Service) (w : World x.Store) (q q' : Service.Request),
    q.Conceals x s w (fun _ found => found.isSome) q' →
    x.logged unit mishaps (s.serve q').run w = x.logged unit mishaps (s.serve q).run w := by
  intro hall
  let l := [(fingerprint, tokenOf ⟨1⟩), (fingerprint, tokenOf ⟨1⟩), (tablet, tokenOf ⟨2⟩)]
  have hlaptop : (fingerprint, tokenOf ⟨1⟩) ∈ l := List.mem_cons_self
  have htablet : (tablet, tokenOf ⟨2⟩) ∈ l :=
    List.mem_cons_of_mem _ (List.mem_cons_of_mem _ List.mem_cons_self)
  have hsame := hall .inMemory 0 (fun _ => none) (Service.Sample.service 2) (holding l) _ _
    (conceals_holding rfl hlaptop htablet (by decide) (by decide))
  obtain ⟨expiresAt, hlogged⟩ := logged_holding 2 hlaptop (by decide)
  obtain ⟨expiresAt', hlogged'⟩ := logged_holding 2 htablet (by decide)
  have hleft : ∀ a b : String, a ≠ b →
      [a, a, b].filter (· != a) = [b] ∧ [a, a, b].filter (· != b) = [a, a] := by
    intro a b hne
    simp [hne, hne.symm]
  obtain ⟨hone, htwo⟩ := hleft _ _ (stored_ne (tokenOf ⟨1⟩) (tokenOf ⟨2⟩))
  have hlist : l.map Registry.stored = [Registry.stored (fingerprint, tokenOf ⟨1⟩),
    Registry.stored (fingerprint, tokenOf ⟨1⟩), Registry.stored (tablet, tokenOf ⟨2⟩)] := rfl
  rw [hlogged, hlogged', hlist, hone, htwo] at hsame
  have hlength := congrArg List.length hsame
  cases hlength

end Http

end SessionAuth
