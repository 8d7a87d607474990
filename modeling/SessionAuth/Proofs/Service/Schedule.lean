/-
Runs that are put together from parts.

A run need not change from one call to another at every command.  When a call goes on for
a while and no other one does anything, it does what it would do alone, and this is a part
of a run (`Run.ahead`).  So a schedule can be given in large pieces, and what becomes of
the lists is known from the calls that run alone.

At the end there is a small service with one user, a shared key and a token that it makes
when all random bits are zero, to be used where a run has to be shown.
-/
import SessionAuth.Proofs.Service.Alone
import SessionAuth.Proofs.Token.RoundTrip

namespace SessionAuth

open Session (Registry Fingerprint Entry)

namespace Program

variable {Command : Type} {Reply : Command → Type} {α β σ : Type}

/-- A program goes on for a while and leaves the rest to be done. -/
inductive Ahead (handler : (c : Command) → σ → Reply c × σ) :
    Program Command Reply α → σ → Program Command Reply α → σ → Prop
  | refl (p : Program Command Reply α) (state : σ) : Ahead handler p state p state
  | step {c : Command} {next : Reply c → Program Command Reply α} {state last : σ}
      {rest : Program Command Reply α}
      (h : Ahead handler (next (handler c state).1) (handler c state).2 rest last) :
    Ahead handler (ask c next) state rest last

namespace Ahead

variable {handler : (c : Command) → σ → Reply c × σ} {p q r : Program Command Reply α}
  {state later last : σ}

theorem trans (h : Ahead handler p state q later) (h' : Ahead handler q later r last) :
    Ahead handler p state r last := by
  induction h with
  | refl p state => exact h'
  | step h ih => exact .step (ih h')

/-- What the first part of a sequence does, the sequence does. -/
theorem bind (h : Ahead handler p state q later) (f : α → Program Command Reply β) :
    Ahead handler (Program.bind p f) state (Program.bind q f) later := by
  induction h with
  | refl p state => exact .refl _ _
  | step h ih => exact .step ih

/-- A program can go on to its end. -/
theorem of_run {value : α} (h : Program.run handler p state = (value, last)) :
    Ahead handler p state (done value) last := by
  induction p generalizing state with
  | done result =>
    cases h
    exact .refl _ _
  | ask c next ih => exact .step (ih _ h)

end Ahead

end Program

namespace Service

variable {n : Nat} {first a : Scene Store n} {past : List (Happening n)} {i : Fin n}
  {choose : (count : Nat) → BitVec count}

/-- Random bits that are chosen beforehand. -/
def chosen (choose : (count : Nat) → BitVec count) : Source := fun e count => (choose count, e)

theorem answers_chosen (choose : (count : Nat) → BitVec count) (unit : Nat) (e : Effect)
    (w : World Store) : inMemory.Answers unit e w (handleWith (chosen choose) unit e w).1
      (handleWith (chosen choose) unit e w).2 := by
  cases e with
  | random count => exact .drawn count (choose count) w
  | cache c => exact .handled (.cache c) w
  | users c => exact .handled (.users c) w
  | clock => exact .handled .clock w
  | log event => exact .handled (.log event) w

/-- The scene after one call has gone on, up to a program and a world. -/
def Scene.moved (a : Scene Store n) (i : Fin n) (p : Action Answer) (w : World Store) :
    Scene Store n :=
  ⟨fun j => if j = i then p else a.calls j, w⟩

theorem Scene.moved_self (p : Action Answer) (w : World Store) : (a.moved i p w).calls i = p :=
  if_pos rfl

theorem Scene.moved_ne {j : Fin n} (h : j ≠ i) (p : Action Answer) (w : World Store) :
    (a.moved i p w).calls j = a.calls j :=
  if_neg h

/-- Something that a call has asked while it went on by itself with bits that were chosen. -/
def IsChosen (choose : (count : Nat) → BitVec count) (i : Fin n) (h : Happening n) : Prop :=
  ∃ e w, h = .asked i ⟨e, (handleWith (chosen choose) i e w).1⟩

/-- **A call of a run may go on by itself**, and nothing else happens meanwhile. -/
theorem Run.ahead_chosen (hrun : Run inMemory first past a) {p p' : Action Answer}
    {w' : World Store} (hcall : a.calls i = p)
    (h : Program.Ahead (handleWith (chosen choose) i) p a.world p' w') :
    ∃ newer, Run inMemory first (newer ++ past) (a.moved i p' w') ∧
      ∀ h ∈ newer, IsChosen choose i h := by
  generalize hw : a.world = w at h
  induction h generalizing a past with
  | refl p w =>
    refine ⟨[], ?_, fun h hh => absurd hh List.not_mem_nil⟩
    have hsame : a.moved i p w = a := by
      obtain ⟨calls, world⟩ := a
      obtain rfl : world = w := hw
      unfold Scene.moved
      congr 1
      funext j
      split
      · rename_i hj
        rw [hj, ← hcall]
      · rfl
    rw [hsame]
    exact hrun
  | @step e next w last rest h ih =>
    subst hw
    have hstep := hrun.step (.asks hcall (answers_chosen choose i e a.world))
    obtain ⟨newer, hnewer, hchosen⟩ := ih hstep (if_pos rfl) rfl
    refine ⟨newer ++ [.asked i ⟨e, (handleWith (chosen choose) i e a.world).1⟩], ?_,
      fun h hh => ?_⟩
    · have hmoved : Scene.moved
          ⟨fun j => if j = i then next (handleWith (chosen choose) i e a.world).1 else a.calls j,
            (handleWith (chosen choose) i e a.world).2⟩ i rest last = a.moved i rest last := by
        unfold Scene.moved
        congr 1
        funext j
        simp only
        split <;> rfl
      rw [List.append_assoc, List.singleton_append, ← hmoved]
      exact hnewer
    · rcases List.mem_append.mp hh with hh | hh
      · exact hchosen h hh
      · exact ⟨e, a.world, List.mem_singleton.mp hh⟩

theorem Run.ahead (hrun : Run inMemory first past a) {p p' : Action Answer} {w' : World Store}
    (hcall : a.calls i = p)
    (h : Program.Ahead (handleWith (chosen choose) i) p a.world p' w') :
    ∃ newer, Run inMemory first (newer ++ past) (a.moved i p' w') :=
  (hrun.ahead_chosen hcall h).imp fun _ hnewer => hnewer.1

/-- A call that has not begun may run alone, whatever random bits it is given. -/
theorem Run.alone (hrun : Run inMemory first past a) {call : Call (Option IssuedTokens)}
    {answer : Answer} {w' : World Store} (hcall : a.calls i = call.run)
    (h : Alone (chosen choose) i call a.world answer w') :
    ∃ newer, Run inMemory first (newer ++ past) (a.moved i (.done answer) w') :=
  hrun.ahead hcall (.of_run h)

/-! ### Stopping on the way -/

section Ahead

variable {α β : Type} {source : Source} {unit : Nat} {w w₁ : World Store}

theorem ahead_bind {call : Call α} {value : α} (h : Alone source unit call w (.ok value) w₁)
    (g : α → Call β) :
    Program.Ahead (handleWith source unit) (call >>= g).run w (g value).run w₁ :=
  (Program.Ahead.of_run h).bind _

theorem ahead_left {call rest : Call α}
    (h : Program.Ahead (handleWith source unit) call.run w rest.run w₁) (g : α → Call β) :
    Program.Ahead (handleWith source unit) (call >>= g).run w (rest >>= g).run w₁ :=
  h.bind _

theorem ahead_map {call rest : Call α}
    (h : Program.Ahead (handleWith source unit) call.run w rest.run w₁) (g : α → β) :
    Program.Ahead (handleWith source unit) (g <$> call).run w (g <$> rest).run w₁ :=
  h.bind _

theorem ahead_lift {call rest : Call α}
    (h : Program.Ahead (handleWith source unit) call.run w rest.run w₁) :
    Program.Ahead (handleWith source unit) (ExceptT.lift call.run : Call _).run w
      (ExceptT.lift rest.run : Call _).run w₁ :=
  h.bind _

/-- What is left of a refresh when the session has been taken out. -/
def reissue (s : Service) (user : UserId) (f : Fingerprint) : Call (Option IssuedTokens) :=
  some <$> do
    let work : Call IssuedTokens := do
      let tokens ← s.issue user f
      Call.log (.refreshed user tokens.expiresAt)
      return tokens
    Call.finish (← ExceptT.lift work.run)

variable {s : Service} {f : Fingerprint} {token raw : String}

/-- A refresh goes on up to the point where it has taken its session out. -/
theorem ahead_refresh (source : Source) (unit : Nat) {user : User}
    (h : s.bearer w.store.2.users w.now token = .ok user)
    (hfind : Registry.find? f.text token (sessions w (Registry.key user.id)) = some raw) :
    ∃ w₁, Program.Ahead (handleWith source unit) (s.serve (.refresh f token)).run w
        (s.reissue user.id f).run w₁ ∧
      Settled (withCache w (w.store.1.remove w.now (Registry.key user.id) raw).2) w₁ := by
  obtain ⟨w₁, hresolve, hsettled⟩ := Alone.resolve_begun source unit s w token
  rw [h] at hresolve
  rw [← hsettled.sessions] at hfind
  refine ⟨withCache w₁ (w₁.store.1.remove w₁.now (Registry.key user.id) raw).2, ?_, ?_⟩
  · refine ahead_map ?_ _
    refine (ahead_bind (Alone.users source unit .begin w) _).trans ?_
    refine ahead_left (ahead_lift ?_) _
    exact (ahead_bind hresolve _).trans (ahead_bind (Alone.consume_found hfind) _)
  · rw [← hsettled.now, ← hsettled.lists]
    exact hsettled.withCache _

/-- The rest of a refresh adds the new session. -/
theorem Alone.reissue_ok (source : Source) (unit : Nat) (f : Fingerprint) {user : UserId}
    (hmint : s.CanMint user w.now) :
    ∃ tokens, s.Issues source user w.now tokens ∧ ∃ w',
      Alone source unit (s.reissue user f) w (.ok (some tokens)) w' ∧
      Settled (withCache w (registered s.registry w.now (Registry.key user)
        (Entry.encode ⟨f.text, tokens.refresh⟩) tokens.maxAge w.store.1)) w' := by
  obtain ⟨tokens, w₁, hissue, hissues, hstill⟩ := Alone.issue source unit s f hmint
  obtain ⟨w₂, hlog, hstill'⟩ := Alone.log source unit (.refreshed user tokens.expiresAt) w₁
  refine ⟨tokens, hissues, Alone.map_ok
    ⟨{ w₂ with store := (w₂.store.1, w₂.store.2.commit unit) }, ?_, ?_⟩⟩
  · refine Alone.bind (Alone.lift (Alone.bind hissue (Alone.bind hlog (Alone.pure tokens w₂)))) ?_
    exact Alone.bind (Alone.users source unit .commit w₂) (Alone.pure tokens _)
  · exact (hstill.trans hstill').settled.trans ⟨rfl, Users.Memory.users_commit _ _, rfl⟩

end Ahead

/-! ### A small service

There is one user, keys are shared, and tokens hold for a quarter of an hour and for a
day.  When a call begins at the first second of all and is given no bits but zeros, the
refresh token that it makes is `Sample.token`.
-/

namespace Sample

def ada : User := { id := ⟨1⟩, login := "ada", passwordHash := "swordfish" }

def codec : Token.Codec where
  algorithm := .hmac .sha256
  signingKey := ⟨.shared, []⟩
  verificationKey := ⟨.shared, []⟩
  accessLifetime := .ofSeconds 900
  refreshLifetime := .ofSeconds 86400

/-- The service keeps passwords as they are. -/
def service (maxSessions : Nat) : Service :=
  ⟨codec, ⟨maxSessions⟩, fun hash password => hash == password.normalized⟩

def fingerprint : Fingerprint := ⟨"laptop", by decide⟩

def login : Request := .login "ada" ⟨"swordfish"⟩ fingerprint

/-- Nothing has been asked of the service. -/
def world : World Store := ⟨({}, { users := [ada] }), .ofSeconds 0, ⟨[], 0⟩, []⟩

def zeros (count : Nat) : BitVec count := 0

def payload : Token.Payload :=
  codec.payloadOf (.ofSeconds 0) (.ofRandom (zeros 128)) ada.id.toHex (some .refresh) {}

def token : String := codec.sharedToken .sha256 payload

/-- One call opens a session, and another one ends it. -/
def loginLogout : Fin 2 → Request
  | 0 => login
  | 1 => .logout token

/-- The same calls, one minute apart. -/
def calls : List (Int × Request) := [(0, login), (60, .logout token)]

def tablet : Fingerprint := ⟨"tablet", by decide⟩

/-- The token has been given to the newer one of two sessions. -/
def opened : World Store :=
  let older := ({} : Cache.Memory).push (.ofSeconds 0) (Registry.key ada.id)
    (Registry.stored (tablet, "older")) (some 86400)
  withCache world (older.push (.ofSeconds 0) (Registry.key ada.id)
    (Registry.stored (fingerprint, token)) (some 86400))

variable {maxSessions : Nat}

/-- Tokens of any kind can be made for anybody during the first billion seconds. -/
theorem mint_eq (id user : UserId) (noise : Token.Noise) (kind : Token.Kind) (second : Int)
    (hfirst : 0 ≤ second) (hlast : second ≤ 1000000000) :
    codec.mint (.ofSeconds second) id noise user.toHex (some kind) {} =
      .ok (.ofSeconds ((Instant.ofSeconds second).seconds + codec.lifetimeSeconds (some kind) {}),
        codec.sharedToken .sha256
          (codec.payloadOf (.ofSeconds second) id user.toHex (some kind) {})) := by
  obtain ⟨hpositive, hshort⟩ : 0 < codec.lifetimeSeconds (some kind) {} ∧
      codec.lifetimeSeconds (some kind) {} ≤ 86400 := by
    cases kind <;> decide
  refine Token.Codec.mint_shared rfl rfl hpositive ?_ ?_
  · rw [Instant.seconds_ofSeconds, Instant.firstSecond]
    omega
  · rw [Instant.seconds_ofSeconds, Instant.lastSecond]
    omega

theorem canMint (user : UserId) {second : Int} (hfirst : 0 ≤ second)
    (hlast : second ≤ 1000000000) : (service maxSessions).CanMint user (.ofSeconds second) :=
  fun id noise kind => ⟨_, mint_eq id user noise kind second hfirst hlast⟩

theorem verified : (service maxSessions).verified [ada] "ada" ⟨"swordfish"⟩ = .ok ada := by
  have hfind : [ada].find? (·.hasLogin "ada") = some ada :=
    List.find?_cons_of_pos (beq_iff_eq.mpr rfl)
  unfold Service.verified
  rw [hfind]
  rfl

theorem checksOwn : codec.ChecksOwn := Token.Codec.checksOwn_shared rfl rfl

/-- Whatever token is made during that time is read then as what it says. -/
theorem open?_minted {id user : UserId} {noise : Token.Noise} {kind : Token.Kind} {second : Int}
    (hfirst : 0 ≤ second) {expiry : Instant} {text : String}
    (h : codec.mint (.ofSeconds second) id noise user.toHex (some kind) {} = .ok (expiry, text)) :
    Token.Codec.open? codec.verificationKey codec.algorithm (.ofSeconds second) text =
      some (codec.payloadOf (.ofSeconds second) id user.toHex (some kind) {}) := by
  refine Token.Codec.open?_at_once checksOwn rfl rfl h ?_
  rw [Instant.seconds_ofSeconds]
  exact hfirst

theorem open?_token : Token.Codec.open? codec.verificationKey codec.algorithm (.ofSeconds 0) token =
    some payload :=
  open?_minted (by decide)
    (mint_eq (.ofRandom (zeros 128)) ada.id (zeros 512) .refresh 0 (by decide) (by decide))

/-- The token is accepted as soon as it is made. -/
theorem bearer : (service maxSessions).bearer [ada] (.ofSeconds 0) token = .ok ada := by
  have huser : payload.user = .ok ada.id := by
    unfold Token.Payload.user
    rw [show payload.subject = ada.id.toHex from rfl, UserId.parse?_toHex]
  exact bearer_eq_ok open?_token huser (List.find?_cons_of_pos (beq_iff_eq.mpr rfl)) rfl

/-- With zeros for random bits the refresh token is the one of the sample. -/
theorem refresh_eq {tokens : IssuedTokens}
    (h : (service maxSessions).Issues (chosen zeros) ada.id (.ofSeconds 0) tokens) :
    tokens.refresh = token := by
  obtain ⟨x, y, hminted⟩ := h.refresh
  have hmint := mint_eq (.ofRandom (zeros 128)) ada.id (zeros 512) .refresh 0 (by decide)
    (by decide)
  have hsame := Except.ok.inj (hmint.symm.trans hminted)
  exact (congrArg Prod.snd hsame).symm

/-- When Ada logs in at the first second of all, the session that she gets has the token. -/
theorem login_ok (maxSessions unit : Nat) {w : World Store} (husers : w.store.2.users = [ada])
    (hnow : w.now = .ofSeconds 0) : ∃ tokens w',
      Alone (chosen zeros) unit ((service maxSessions).serve login) w (.ok (some tokens)) w' ∧
      1 ≤ tokens.maxAge ∧
      Settled (withCache w (registered ⟨maxSessions⟩ w.now (Registry.key ada.id)
        (Registry.stored (fingerprint, token)) tokens.maxAge w.store.1)) w' := by
  have hverified : (service maxSessions).verified w.store.2.users "ada" ⟨"swordfish"⟩ =
      .ok ada := by
    rw [husers]
    exact verified
  obtain ⟨tokens, hissues, w', halone, hsettled⟩ := Alone.login_ok (chosen zeros) unit fingerprint
    hverified (hnow ▸ canMint _ (by decide) (by decide))
  have hrefresh : tokens.refresh = token := refresh_eq (hnow ▸ hissues)
  rw [hrefresh] at hsettled
  refine ⟨tokens, w', halone, ?_, hsettled⟩
  rw [hissues.maxAge]
  exact Instant.one_le_secondsUntil _ _

theorem names (maxSessions : Nat) : (service maxSessions).codec.Names token ada.id :=
  names_of_bearer bearer

theorem bearer_opened :
    (service maxSessions).bearer opened.store.2.users opened.now token = .ok ada :=
  bearer

theorem sessions_opened : sessions opened (Registry.key ada.id) =
    [(fingerprint, token), (tablet, "older")].map Registry.stored := by
  unfold opened
  rw [sessions_withCache]
  show Cache.Memory.values _ (.ofSeconds 0) _ = _
  rw [Cache.Memory.values_push_self (by decide), Cache.Memory.values_push_self (by decide)]
  rfl

theorem find?_opened :
    Registry.find? fingerprint.text token (sessions opened (Registry.key ada.id)) =
      some (Registry.stored (fingerprint, token)) := by
  rw [sessions_opened]
  exact Registry.find?_stored (names 1).head?_ne List.mem_cons_self (by decide)

end Sample

end Service

end SessionAuth
