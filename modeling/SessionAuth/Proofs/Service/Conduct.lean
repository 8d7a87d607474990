/-
Every call keeps to the rules.

`Keeps` is following the rules of `Proofs/Service/Phase.lean`, read off for calls that
may end in an error.  There is one lemma for each function of the service, in the order
in which they call each other, and each of them is stated with the end it is wanted for:
whatever holds of the places and results in which the function can end, it keeps to the
rules up to there.  `serve_follows` puts them together for the three requests.

The history that a place carries only ever grows, so what a lemma says about it is that
the history at the end contains the one at the beginning.
-/
import SessionAuth.Proofs.Service.Phase

namespace SessionAuth

namespace Service

open Session (Registry Entry)

/-! ### Replies to be expected -/

/-- The cache does not fail. -/
theorem exists_ok_of_expected {c : Cache.Command} {reply : c.Outcome}
    (h : expected (.cache c) reply) : ∃ value, reply = .ok value := by
  obtain ⟨now, m, rfl⟩ := h
  cases c <;> exact ⟨_, rfl⟩

/-- A look-up by id finds a user with this id, or nobody, or has no transaction. -/
theorem found_of_expected {id : UserId} {reply : (Users.Command.findById id).Outcome}
    (h : expected (.users (.findById id)) reply) :
    reply = .ok none ∨ (∃ user : User, user.id = id ∧ reply = .ok (some user)) ∨
      reply = .error Users.notStarted := by
  obtain ⟨unit, m, rfl⟩ := h
  simp only [Users.Memory.perform]
  split
  · cases hfind : m.users.find? (·.id == id) with
    | none => exact Or.inl rfl
    | some user =>
      refine Or.inr (Or.inl ⟨user, ?_, rfl⟩)
      simpa using List.find?_some hfind
  · exact Or.inr (Or.inr rfl)

/-- A look-up by login finds a user or nobody, or has no transaction. -/
theorem found_login_of_expected {login : String}
    {reply : (Users.Command.findByLogin login).Outcome}
    (h : expected (.users (.findByLogin login)) reply) :
    (∃ found : Option User, reply = .ok found) ∨ reply = .error Users.notStarted := by
  obtain ⟨unit, m, rfl⟩ := h
  simp only [Users.Memory.perform]
  split
  · exact Or.inl ⟨_, rfl⟩
  · exact Or.inr rfl

/-- A unit of work begins and ends without fail. -/
theorem ends_of_expected {c : Users.Command} (hc : c = .begin ∨ c = .commit ∨ c = .rollback)
    {reply : c.Outcome} (h : expected (.users c) reply) : ∃ value, reply = .ok value := by
  obtain ⟨unit, m, rfl⟩ := h
  rcases hc with rfl | rfl | rfl <;> exact ⟨_, rfl⟩

/-! ### Calls -/

/-- The call keeps to the rules from a place on, and ends well. -/
def Keeps (s : Service) (q : Request) {α : Type} (call : Call α)
    (ends : Place → Except AuthError α → Prop) (p : Place) : Prop :=
  (call.run : Action (Except AuthError α)).Follows (s.rules q) ends p

variable {s : Service} {q : Request} {α β : Type} {p : Place}

@[simp] theorem keeps_pure {value : α} {ends : Place → Except AuthError α → Prop} :
    s.Keeps q (pure value : Call α) ends p ↔ ends p (.ok value) := Iff.rfl

@[simp] theorem keeps_throw {e : AuthError} {ends : Place → Except AuthError α → Prop} :
    s.Keeps q (throw e : Call α) ends p ↔ ends p (.error e) := Iff.rfl

@[simp] theorem keeps_ofExcept {result : Except AuthError α}
    {ends : Place → Except AuthError α → Prop} :
    s.Keeps q (Call.ofExcept result) ends p ↔ ends p result := Iff.rfl

/-- A sequence keeps to the rules when its first part does and leaves a good start for the rest. -/
theorem keeps_bind {call : Call α} {f : α → Call β} {ends : Place → Except AuthError β → Prop} :
    s.Keeps q (call >>= f) ends p ↔
      s.Keeps q call (fun p result =>
        match result with
        | .ok value => s.Keeps q (f value) ends p
        | .error e => ends p (.error e)) p := by
  unfold Keeps
  rw [ExceptT.run_bind, Program.bind_eq, Program.follows_bind]
  constructor
  all_goals
    intro h
    refine h.mono fun p' result h' => ?_
    cases result <;> exact h'

theorem keeps_map {call : Call α} {f : α → β} {ends : Place → Except AuthError β → Prop} :
    s.Keeps q (f <$> call) ends p ↔ s.Keeps q call (fun p result => ends p (result.map f)) p := by
  show Program.Follows (s.rules q) ends (Program.bind call.run _) p ↔ _
  rw [Program.follows_bind]
  constructor
  all_goals
    intro h
    refine h.mono fun p' result h' => ?_
    cases result <;> exact h'

theorem Keeps.mono {call : Call α} {ends ends' : Place → Except AuthError α → Prop}
    (h : s.Keeps q call ends p) (himp : ∀ p result, ends p result → ends' p result) :
    s.Keeps q call ends' p :=
  Program.Follows.mono h himp

/-- Asking the cache is allowed where the rules allow it, and the cache does not fail. -/
theorem keeps_cache {c : Cache.Command} {ends : Place → Except AuthError c.Reply → Prop}
    (hallowed : p.AllowsCache s q c)
    (hends : ∀ value : c.Reply,
      ends ⟨⟨.cache c, .ok value⟩ :: p.seen, p.phase.after q c value⟩ (.ok value)) :
    s.Keeps q (Call.cache c) ends p := by
  refine ⟨hallowed, fun reply hreply => ?_⟩
  obtain ⟨value, rfl⟩ := exists_ok_of_expected hreply
  exact hends value

theorem keeps_readList {key : String} {ends : Place → Except AuthError (List String) → Prop}
    (hallowed : p.AllowsCache s q (.get key))
    (hends : ∀ entries : List String,
      ends ⟨⟨.cache (.get key), .ok entries⟩ :: p.seen, p.phase.after q (.get key) entries⟩
        (.ok entries)) :
    s.Keeps q (Call.readList key) ends p :=
  keeps_cache hallowed hends

theorem keeps_removeFrom {key raw : String} {ends : Place → Except AuthError Bool → Prop}
    (hallowed : p.AllowsCache s q (.remove key raw))
    (hends : ∀ removed : Bool,
      ends ⟨⟨.cache (.remove key raw), .ok removed⟩ :: p.seen,
        p.phase.after q (.remove key raw) removed⟩ (.ok removed)) :
    s.Keeps q (Call.removeFrom key raw) ends p :=
  keeps_cache hallowed hends

theorem keeps_pushTo {key raw : String} {seconds : Nat}
    {ends : Place → Except AuthError Unit → Prop}
    (hallowed : p.AllowsCache s q (.push key raw (some seconds)))
    (hends : ends ⟨⟨.cache (.push key raw (some seconds)), .ok ()⟩ :: p.seen,
      p.phase.after q (.push key raw (some seconds)) ()⟩ (.ok ())) :
    s.Keeps q (Call.pushTo key raw seconds) ends p :=
  keeps_cache hallowed fun _ => hends

theorem keeps_dropList {key : String} {ends : Place → Except AuthError Unit → Prop}
    (hallowed : p.AllowsCache s q (.delete key))
    (hends : ends ⟨⟨.cache (.delete key), .ok ()⟩ :: p.seen, p.phase.after q (.delete key) ()⟩
      (.ok ())) :
    s.Keeps q (Call.dropList key) ends p :=
  keeps_cache hallowed fun _ => hends

/-- Asking the unit of work is always allowed and changes no phase. -/
theorem keeps_users {c : Users.Command} {ends : Place → Except AuthError c.Reply → Prop}
    (hends : ∀ reply : c.Outcome, expected (.users c) reply →
      ends ⟨⟨.users c, reply⟩ :: p.seen, p.phase⟩ reply) :
    s.Keeps q (Call.users c) ends p :=
  ⟨trivial, hends⟩

theorem keeps_clock {ends : Place → Except AuthError Instant → Prop}
    (hends : ∀ now : Instant, ends ⟨⟨.clock, now⟩ :: p.seen, p.phase⟩ (.ok now)) :
    s.Keeps q Call.clock ends p :=
  ⟨trivial, fun now _ => hends now⟩

theorem keeps_random {count : Nat} {ends : Place → Except AuthError (BitVec count) → Prop}
    (hends : ∀ bits : BitVec count, ends ⟨⟨.random count, bits⟩ :: p.seen, p.phase⟩ (.ok bits)) :
    s.Keeps q (Call.random count) ends p :=
  ⟨trivial, fun bits _ => hends bits⟩

theorem keeps_log {event : Event} {ends : Place → Except AuthError Unit → Prop}
    (hends : ends ⟨⟨.log event, ()⟩ :: p.seen, p.phase⟩ (.ok ())) :
    s.Keeps q (Call.log event) ends p :=
  ⟨trivial, fun _ _ => hends⟩

/-! ### Tokens -/

/-- More history does not unmake a token. -/
theorem Minted.mono {user : UserId} {seen seen' : List Asked} {token : String}
    (h : s.Minted user seen token) (hsub : seen ⊆ seen') : s.Minted user seen' token := by
  obtain ⟨now, id, noise, expiry, hnow, hid, hnoise, hmint⟩ := h
  exact ⟨now, id, noise, expiry, hsub hnow, hsub hid, hsub hnoise, hmint⟩

theorem decode_keeps {token : String} {ends : Place → Except AuthError Token.Payload → Prop}
    (hok : ∀ seen payload now, p.seen ⊆ seen →
      Token.Codec.open? s.codec.verificationKey s.codec.algorithm now token = some payload →
      ends ⟨seen, p.phase⟩ (.ok payload))
    (hbad : ∀ seen, p.seen ⊆ seen → ends ⟨seen, p.phase⟩ (.error .tokenInvalid)) :
    s.Keeps q (s.codec.decode token) ends p := by
  unfold Token.Codec.decode Token.Codec.decodeWith
  refine keeps_bind.2 (keeps_clock fun now => ?_)
  simp only [Option.getD_none]
  split
  · rename_i payload hopen
    exact hok _ payload now (List.subset_cons_self _ _) hopen
  · refine keeps_bind.2 (keeps_log ?_)
    exact hbad _ (fun x hx => List.mem_cons_of_mem _ (List.mem_cons_of_mem _ hx))

theorem encode_keeps {subject : String} {kind : Token.Kind}
    {ends : Place → Except AuthError (Instant × String) → Prop}
    (hends : ∀ seen now id noise, p.seen ⊆ seen → (⟨.clock, now⟩ : Asked) ∈ seen →
      ⟨.random 128, id⟩ ∈ seen → ⟨.random 512, noise⟩ ∈ seen →
      ends ⟨seen, p.phase⟩ (s.codec.mint now (.ofRandom id) noise subject (some kind) {})) :
    s.Keeps q (s.codec.encode subject kind) ends p := by
  unfold Token.Codec.encode Token.Codec.encodeWith
  simp only [Option.isNone_some, Bool.and_false, Bool.false_eq_true, if_false]
  refine keeps_bind.2 (keeps_clock fun now => ?_)
  refine keeps_bind.2 (keeps_random fun id => ?_)
  refine keeps_bind.2 (keeps_random fun noise => ?_)
  refine hends _ now id noise ?_ (by simp) (by simp) (by simp)
  intro x hx
  simp [hx]

/-! ### Users -/

/-- A token that cannot be made is a fault of the configuration. -/
theorem configuration_of_mint {c : Token.Codec} {now : Instant} {id : UserId} {noise : Token.Noise}
    {subject : String} {kind : Option Token.Kind} {o : Token.Overrides} {e : AuthError}
    (h : c.mint now id noise subject kind o = .error e) :
    ∃ message, e = .configuration message := by
  unfold Token.Codec.mint at h
  simp only at h
  split at h
  · cases h
    exact ⟨_, rfl⟩
  · split at h
    · cases h
      exact ⟨_, rfl⟩
    · split at h
      · cases h
        exact ⟨_, rfl⟩
      · unfold Token.Codec.signText at h
        simp only at h
        split at h <;> cases h
        exact ⟨_, rfl⟩

/-- Whoever a token resolves to is the user it names. -/
theorem resolve_keeps {token : String} {ends : Place → Except AuthError User → Prop}
    (hok : ∀ seen user, p.seen ⊆ seen → s.codec.Names token user.id →
      ends ⟨seen, p.phase⟩ (.ok user))
    (hbad : ∀ seen e, p.seen ⊆ seen → e ≠ .sessionRevoked → ends ⟨seen, p.phase⟩ (.error e)) :
    s.Keeps q (s.resolve token .refresh) ends p := by
  unfold resolve
  refine keeps_bind.2 (decode_keeps (fun seen payload now hsub hopen => ?_) fun seen hsub =>
    hbad seen _ hsub (by simp))
  refine keeps_bind.2 (keeps_ofExcept.2 ?_)
  cases hid : payload.user with
  | error e =>
    refine hbad seen e hsub ?_
    unfold Token.Payload.user at hid
    split at hid <;> cases hid
    simp
  | ok id =>
    refine keeps_bind.2 (keeps_users fun reply hreply => ?_)
    have hsub' : p.seen ⊆ ⟨.users (.findById id), reply⟩ :: seen :=
      fun x hx => List.mem_cons_of_mem _ (hsub hx)
    rcases found_of_expected hreply with rfl | ⟨user, huser, rfl⟩ | rfl
    · exact hbad _ _ hsub' (by simp)
    · simp only
      split
      · rename_i hkind
        exact hok _ user hsub' ⟨now, payload, hopen, by rw [hid, huser], hkind⟩
      · exact hbad _ _ hsub' (by simp)
    · exact hbad _ _ hsub' (by simp [Users.notStarted])

theorem credentials_keeps {login : String} {password : Password.ClearText}
    {ends : Place → Except AuthError User → Prop}
    (hok : ∀ seen user, p.seen ⊆ seen → ends ⟨seen, p.phase⟩ (.ok user))
    (hbad : ∀ seen e, p.seen ⊆ seen → e ≠ .sessionRevoked → ends ⟨seen, p.phase⟩ (.error e)) :
    s.Keeps q (s.credentials login password) ends p := by
  unfold credentials
  refine keeps_bind.2 (keeps_users fun reply hreply => ?_)
  have hsub : p.seen ⊆ ⟨.users (.findByLogin login), reply⟩ :: p.seen :=
    List.subset_cons_self _ _
  rcases found_login_of_expected hreply with ⟨found, rfl⟩ | rfl
  · cases found with
    | none => exact hbad _ _ hsub (by simp)
    | some user =>
      simp only
      split
      · exact hok _ user hsub
      · exact hbad _ _ hsub (by simp)
  · exact hbad _ _ hsub (by simp [Users.notStarted])

/-! ### Sessions -/

/-- Adding a session, from the point on where the list may be read for it. -/
theorem register_keeps {user : UserId} {fingerprint : Session.Fingerprint} {token : String}
    {seconds : Nat} {ends : Place → Except AuthError Unit → Prop}
    (hget : p.AllowsCache s q (.get (Registry.key user)))
    (hcount : ∀ entries : List String,
      p.phase.after q (.get (Registry.key user)) entries =
        .counting (Registry.key user) entries.length)
    (hfingerprint : q.fingerprint? = some fingerprint) (hminted : s.Minted user p.seen token)
    (hseconds : 1 ≤ seconds)
    (hends : ∀ seen, p.seen ⊆ seen →
      ends ⟨seen, .added (Registry.key user) (Entry.encode ⟨fingerprint.text, token⟩)⟩ (.ok ())) :
    s.Keeps q (s.registry.register user fingerprint.text token seconds) ends p := by
  -- What is pushed is the entry of the new session, whatever has been seen meanwhile.
  have hopens : ∀ seen, p.seen ⊆ seen → q.Opens s seen (Registry.key user)
      (Entry.encode ⟨fingerprint.text, token⟩) (some seconds) := fun seen hsub =>
    ⟨user, fingerprint, token, seconds, rfl, hfingerprint, rfl, hminted.mono hsub, rfl, hseconds⟩
  unfold Registry.register
  refine keeps_bind.2 (keeps_readList hget fun entries => ?_)
  rw [hcount]
  simp only
  split
  · rename_i hfull
    refine keeps_bind.2 (keeps_log (keeps_bind.2 (keeps_dropList ⟨rfl, hfull⟩ ?_)))
    refine keeps_bind.2 (keeps_pushTo ⟨rfl, hopens _ fun x hx => by simp [hx]⟩ ?_)
    exact keeps_log (hends _ fun x hx => by simp [hx])
  · rename_i hroom
    refine keeps_bind.2 (keeps_pushTo
      ⟨rfl, Nat.lt_of_not_le hroom, hopens _ fun x hx => by simp [hx]⟩ ?_)
    exact keeps_log (hends _ fun x hx => by simp [hx])

/-- Making tokens and adding the session: without tokens the cache is left alone. -/
theorem issue_keeps {user : UserId} {fingerprint : Session.Fingerprint}
    {ends : Place → Except AuthError IssuedTokens → Prop}
    (hget : ∀ seen, p.seen ⊆ seen →
      (⟨seen, p.phase⟩ : Place).AllowsCache s q (.get (Registry.key user)))
    (hcount : ∀ entries : List String,
      p.phase.after q (.get (Registry.key user)) entries =
        .counting (Registry.key user) entries.length)
    (hfingerprint : q.fingerprint? = some fingerprint)
    (hok : ∀ seen tokens, p.seen ⊆ seen →
      ends ⟨seen, .added (Registry.key user) (Entry.encode ⟨fingerprint.text, tokens.refresh⟩)⟩
        (.ok tokens))
    (hbad : ∀ seen message, p.seen ⊆ seen →
      ends ⟨seen, p.phase⟩ (.error (.configuration message))) :
    s.Keeps q (s.issue user fingerprint) ends p := by
  unfold issue
  refine keeps_bind.2 (encode_keeps fun seen now id noise hsub hnow hid hnoise => ?_)
  cases hrefresh : s.codec.mint now (.ofRandom id) noise user.toHex (some .refresh) {} with
  | error e =>
    obtain ⟨message, rfl⟩ := configuration_of_mint hrefresh
    exact hbad seen message hsub
  | ok minted =>
    obtain ⟨expiry, token⟩ := minted
    refine keeps_bind.2 (encode_keeps fun seen' now' id' noise' hsub' _ _ _ => ?_)
    cases haccess : s.codec.mint now' (.ofRandom id') noise' user.toHex (some .access) {} with
    | error e =>
      obtain ⟨message, rfl⟩ := configuration_of_mint haccess
      exact hbad seen' message fun x hx => hsub' (hsub hx)
    | ok accessMinted =>
      have hminted : s.Minted user seen' token :=
        ⟨now, id, noise, expiry, hsub' hnow, hsub' hid, hsub' hnoise, hrefresh⟩
      have hbefore : p.seen ⊆ seen' := fun x hx => hsub' (hsub hx)
      refine keeps_bind.2 (keeps_clock fun later => ?_)
      refine keeps_bind.2 (register_keeps (hget _ fun x hx => List.mem_cons_of_mem _ (hbefore hx))
        hcount hfingerprint (hminted.mono (List.subset_cons_self _ _))
        (Instant.one_le_secondsUntil _ _) fun last hlast => ?_)
      exact hok last ⟨accessMinted.2, token, expiry, later.secondsUntil expiry⟩
        fun x hx => hlast (List.mem_cons_of_mem _ (hbefore hx))

/-- Using a session up for a refresh. -/
theorem consume_keeps {user : UserId} {fingerprint : Session.Fingerprint} {token : String}
    {seen : List Asked} {ends : Place → Except AuthError Bool → Prop}
    (hnames : s.codec.Names token user)
    (htaken : ∀ seen' raw, seen ⊆ seen' →
      ends ⟨seen', .taken (Registry.key user) raw⟩ (.ok true))
    (hempty : ∀ seen', ends ⟨seen', .searching (Registry.key user) []⟩ (.ok false))
    (hdropped : ∀ seen', ends ⟨seen', .dropped (Registry.key user)⟩ (.ok false)) :
    s.Keeps (.refresh fingerprint token) (Registry.consume user fingerprint.text token) ends
      ⟨seen, .arriving⟩ := by
  unfold Registry.consume
  refine keeps_bind.2 (keeps_readList ⟨user, rfl, fun t ht => ?_⟩ fun entries => ?_)
  · obtain rfl : token = t := by simpa [Request.token?] using ht
    exact hnames
  · simp only [Phase.after, Request.token?, reduceCtorEq, if_false]
    split
    · rename_i hnone
      obtain rfl : entries = [] := List.isEmpty_iff.mp hnone
      exact hempty _
    · rename_i hsome
      have hentries : entries ≠ [] := fun h => hsome (List.isEmpty_iff.mpr h)
      cases hfind : Registry.find? fingerprint.text token entries with
      | some raw =>
        refine keeps_bind.2 (keeps_removeFrom ⟨rfl, hfind⟩ fun removed => ?_)
        cases removed with
        | true => exact htaken _ raw fun x hx => by simp [hx]
        | false =>
          refine keeps_bind.2 (keeps_log (keeps_bind.2 (keeps_dropList ⟨rfl, ?_⟩ ?_)))
          · simp [Request.fingerprint?]
          · exact hdropped _
      | none =>
        refine keeps_bind.2 (keeps_log (keeps_bind.2
          (keeps_dropList ⟨rfl, ?_, hentries, hfind⟩ ?_)))
        · simp [Request.fingerprint?]
        · exact hdropped _

/-- Taking a session out for a logout. -/
theorem revoke_keeps {user : UserId} {token : String} {seen : List Asked}
    {ends : Place → Except AuthError Bool → Prop} (hnames : s.codec.Names token user)
    (htaken : ∀ seen' raw, ends ⟨seen', .taken (Registry.key user) raw⟩ (.ok true))
    (hmissed : ∀ seen', ends ⟨seen', .missed (Registry.key user)⟩ (.ok false))
    (hunknown : ∀ seen' entries, Registry.findToken? token entries = none →
      ends ⟨seen', .searching (Registry.key user) entries⟩ (.ok false)) :
    s.Keeps (.logout token) (Registry.revoke user token) ends ⟨seen, .arriving⟩ := by
  unfold Registry.revoke
  refine keeps_bind.2 (keeps_readList ⟨user, rfl, fun t ht => ?_⟩ fun entries => ?_)
  · obtain rfl : token = t := by simpa [Request.token?] using ht
    exact hnames
  · simp only [Phase.after, Request.token?, reduceCtorEq, if_false]
    cases hfind : Registry.findToken? token entries with
    | some raw =>
      refine keeps_removeFrom ⟨rfl, hfind⟩ fun removed => ?_
      cases removed with
      | true => exact htaken _ raw
      | false => exact hmissed _
    | none => exact hunknown _ entries hfind

/-! ### Requests -/

/-- A unit of work begins and ends around the work and adds nothing to it. -/
theorem inUnit_keeps {work : Call α} {ends : Place → Except AuthError α → Prop}
    (hwork : ∀ seen, p.seen ⊆ seen →
      s.Keeps q work (fun p' result => ∀ last, p'.seen ⊆ last → ends ⟨last, p'.phase⟩ result)
        ⟨seen, p.phase⟩) :
    s.Keeps q (Call.inUnit work) ends p := by
  unfold Call.inUnit
  refine keeps_bind.2 (keeps_users fun reply hreply => ?_)
  obtain ⟨_, rfl⟩ := ends_of_expected (Or.inl rfl) hreply
  refine keeps_bind.2 ?_
  show Program.Follows (s.rules q) _ (Program.bind work.run _) _
  rw [Program.follows_bind]
  refine (hwork _ (List.subset_cons_self _ _)).mono fun p' result hends => ?_
  show s.Keeps q (Call.finish result) ends p'
  cases result with
  | ok value =>
    refine keeps_bind.2 (keeps_users fun reply hreply => ?_)
    obtain ⟨_, rfl⟩ := ends_of_expected (Or.inr (Or.inl rfl)) hreply
    exact hends _ (List.subset_cons_self _ _)
  | error e =>
    refine keeps_bind.2 ⟨trivial, fun reply hreply => ?_⟩
    obtain ⟨_, rfl⟩ := ends_of_expected (Or.inr (Or.inr rfl)) hreply
    exact hends _ (List.subset_cons_self _ _)

/-- **Every request is served by the rules**, and its answer goes with its last phase. -/
theorem serve_follows (s : Service) (q : Request) :
    ((s.serve q).run : Action Answer).Follows (s.rules q) q.Ends Place.start := by
  show s.Keeps q (s.serve q) q.Ends Place.start
  cases q with
  | login login password fingerprint =>
    refine keeps_map.2 (inUnit_keeps fun seen _ => ?_)
    refine keeps_bind.2 (credentials_keeps (fun seen user _ => ?_) fun seen e _ he last _ =>
      ⟨e, rfl, he⟩)
    refine keeps_bind.2 (issue_keeps (fun seen _ => ⟨user.id, rfl, fun t ht => by cases ht⟩)
      (fun entries => rfl) rfl (fun seen tokens _ => ?_) fun seen message _ last _ =>
        ⟨_, rfl, by simp⟩)
    exact keeps_bind.2 (keeps_log fun last _ => ⟨tokens, rfl, rfl⟩)
  | refresh fingerprint token =>
    refine keeps_map.2 (inUnit_keeps fun seen _ => ?_)
    refine keeps_bind.2 (resolve_keeps (fun seen user _ hnames => ?_) fun seen e _ he last _ =>
      ⟨e, rfl, he⟩)
    refine keeps_bind.2 (consume_keeps hnames (fun seen raw _ => ?_) (fun seen last _ => ⟨rfl, rfl⟩)
      fun seen last _ => rfl)
    refine keeps_bind.2 (issue_keeps (fun seen _ => ⟨rfl, by simp [Request.fingerprint?]⟩)
      (fun entries => rfl) rfl (fun seen tokens _ => ?_) fun seen message _ last _ =>
        ⟨message, rfl⟩)
    exact keeps_bind.2 (keeps_log fun last _ => ⟨tokens, rfl, rfl⟩)
  | logout token =>
    refine keeps_bind.2 (inUnit_keeps fun seen _ => ?_)
    refine keeps_bind.2 (resolve_keeps (fun seen user _ hnames => ?_) fun seen e _ he last _ =>
      ⟨e, rfl, he⟩)
    refine keeps_bind.2 (revoke_keeps hnames (fun seen raw => ?_) (fun seen last _ => rfl)
      fun seen entries hfind last _ => ⟨rfl, hfind⟩)
    exact keeps_log fun last _ => rfl

end Service

end SessionAuth
