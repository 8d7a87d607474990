/-
Calls that differ in secrets.

Two logins with one login and two passwords, two refreshes or two logouts with two tokens, begin
in one and the same world.  As long as a password is verified like the other one, or a token
reads like the other one, nothing tells the runs apart before a session is taken out of the list
or put in, and from there on only the lists differ.

How many sessions are left is told only to a refresh that reaches the cap with the session it
adds, by what is reported then.  So that is what two refreshes have to have in common besides
what their tokens say (`Registry.leaves?`): a list may hold copies of a session, which are taken
out together, and two sessions of which there are not as many copies leave more or fewer others.
In a list that holds nothing twice, or no more sessions than are allowed, it is enough that both
find a session or neither does (`Service.Request.Conceals.of_isSome`).
-/
import SessionAuth.Proofs.Service.Alone
import SessionAuth.Proofs.Service.Lists
import SessionAuth.Proofs.Service.Request
import SessionAuth.Proofs.Session.Registry

namespace SessionAuth

open Session (Registry Entry Fingerprint)

variable {x : Setup} {unit : Nat} {mishaps : Nat → Option Mishap}

/-! ### What is compared -/

namespace Session.Registry

/-- What a refresh that finds this text would report of the sessions that it leaves. -/
def leaves? (r : Registry) (entries : List String) (found : Option String) :
    Option (Option Nat) :=
  found.map fun raw => r.reported? (entries.filter (· != raw)).length

/-- Every session of a list leaves as many others, if none is there twice or all fit in. -/
theorem leaves?_eq {r : Registry} {entries : List String} {found found' : Option String}
    (hroom : entries.Nodup ∨ entries.length ≤ r.maxSessions) (hfound : ∀ raw ∈ found, raw ∈ entries)
    (hfound' : ∀ raw ∈ found', raw ∈ entries) (h : found'.isSome = found.isSome) :
    r.leaves? entries found' = r.leaves? entries found := by
  cases found with
  | none => rw [Option.isNone_iff_eq_none.mp (Option.isSome_eq_false_iff.mp h)]
  | some raw =>
    obtain ⟨raw', rfl⟩ := Option.isSome_iff_exists.mp h
    have hmem : raw ∈ entries := hfound raw rfl
    have hmem' : raw' ∈ entries := hfound' raw' rfl
    refine congrArg some (reported?_eq_iff.mpr ?_)
    rcases hroom with hnodup | hfew
    · left
      rw [← hnodup.erase_eq_filter, ← hnodup.erase_eq_filter, List.length_erase_of_mem hmem,
        List.length_erase_of_mem hmem']
    · right
      have hfewer : ∀ other ∈ entries, (entries.filter (· != other)).length < entries.length :=
        fun other hother =>
          List.length_filter_lt_length_iff_exists.mpr ⟨other, hother, by simp⟩
      exact ⟨(hfewer raw hmem).trans_le hfew, (hfewer raw' hmem').trans_le hfew⟩

end Session.Registry

namespace Service

/-- What a token is taken for at an instant: its subject and its kind. -/
def reads (s : Service) (now : Instant) (token : String) : Option (String × Option Token.Kind) :=
  (Token.Codec.open? s.codec.verificationKey s.codec.algorithm now token).map fun payload =>
    (payload.subject, payload.kind)

/-- The sessions that a refresh token is looked for among, if it belongs to a user. -/
def entries? (x : Setup) (s : Service) (w : World x.Store) (token : String) :
    Option (List String) :=
  (s.bearer (x.users w.store) w.now token).toOption.map fun user =>
    (x.deployment.list w.now (Registry.key user.id) w.store).1

/--
Two requests that differ in what is secret, and fare alike: the passwords are both right or both
wrong, the tokens are refused or read alike, and in the list of their user they find alike.
What two refreshes find is compared by `seen`, what two logouts find by whether there is any.
-/
inductive Request.Conceals {γ : Type} (x : Setup) (s : Service) (w : World x.Store)
    (seen : List String → Option String → γ) : Request → Request → Prop
  | login {login : String} {password password' : Password.ClearText} {f f' : Fingerprint}
    (hverdict : ∀ user, (x.users w.store).find? (·.hasLogin login) = some user →
      s.verify user.passwordHash password' = s.verify user.passwordHash password) :
    Conceals x s w seen (.login login password f) (.login login password' f')
  | refresh {f f' : Fingerprint} {token token' : String}
    (hreads : s.reads w.now token' = s.reads w.now token)
    (hfinds : ∀ entries, s.entries? x w token = some entries →
      seen entries (Registry.find? f'.text token' entries) =
        seen entries (Registry.find? f.text token entries)) :
    Conceals x s w seen (.refresh f token) (.refresh f' token')
  | logout {token token' : String}
    (hreads : s.reads w.now token' = s.reads w.now token)
    (hfinds : ∀ entries, s.entries? x w token = some entries →
      (Registry.findToken? token' entries).isSome = (Registry.findToken? token entries).isSome) :
    Conceals x s w seen (.logout token) (.logout token')

/-- No session is twice in the list that a token is looked for in, or all of them fit in. -/
def Request.Uncrowded (x : Setup) (s : Service) (w : World x.Store) (q : Request) : Prop :=
  ∀ token ∈ q.token?, ∀ entries ∈ s.entries? x w token,
    entries.Nodup ∨ entries.length ≤ s.registry.maxSessions

/-- Then it is enough that the tokens are both found, or neither is. -/
theorem Request.Conceals.of_isSome {s : Service} {w : World x.Store} {q q' : Request}
    (h : q.Conceals x s w (fun _ found => found.isSome) q') (hroom : q.Uncrowded x s w) :
    q.Conceals x s w s.registry.leaves? q' := by
  cases h with
  | login hverdict => exact .login hverdict
  | logout hreads hfinds => exact .logout hreads hfinds
  | refresh hreads hfinds =>
    refine .refresh hreads fun entries hentries => ?_
    exact Registry.leaves?_eq (hroom _ rfl entries hentries)
      (fun raw hraw => List.mem_of_find?_eq_some hraw)
      (fun raw hraw => List.mem_of_find?_eq_some hraw) (hfinds entries hentries)

open Setup (Still Tandem)

variable {start : World x.Store} {s : Service}

/-! ### Who makes the request -/

/-- Two tokens that read alike are both refused, or taken for the same. -/
theorem decode_tandem {token token' : String}
    (h : s.reads start.now token' = s.reads start.now token) :
    x.Tandem unit mishaps (x.Still start) (s.codec.decode token) (s.codec.decode token')
      (fun payload payload' w w' => payload'.subject = payload.subject ∧
        payload'.kind = payload.kind ∧ Token.Codec.open? s.codec.verificationKey s.codec.algorithm
          start.now token = some payload ∧ x.Still start w w') := by
  unfold Token.Codec.decode Token.Codec.decodeWith
  refine Tandem.clock_still.bind ?_
  rintro now now' w w' n ⟨rfl, rfl, hw⟩
  unfold reads at h
  simp only [Option.getD_none]
  cases hopen : Token.Codec.open? s.codec.verificationKey s.codec.algorithm start.now token with
  | none =>
    cases hopen' : Token.Codec.open? s.codec.verificationKey s.codec.algorithm start.now token' with
    | none =>
      exact (Tandem.log Still.keeps .tokenRejected).bind_same
        (fun _ => .throw (fun _ _ h => h.butForLists) .tokenInvalid) w w' n hw
    | some payload' =>
      rw [hopen, hopen'] at h
      cases h
  | some payload =>
    cases hopen' : Token.Codec.open? s.codec.verificationKey s.codec.algorithm start.now token' with
    | none =>
      rw [hopen, hopen'] at h
      cases h
    | some payload' =>
      rw [hopen, hopen'] at h
      obtain ⟨hsubject, hkind⟩ := Prod.mk.inj (Option.some.inj h)
      exact .ok ⟨hsubject, hkind, rfl, hw⟩

/-- Two tokens that read alike belong to the same user, or to none. -/
theorem resolve_tandem {token token' : String}
    (h : s.reads start.now token' = s.reads start.now token) :
    x.Tandem unit mishaps (x.Still start) (s.resolve token .refresh) (s.resolve token' .refresh)
      (fun user user' w w' => user' = user ∧ s.entries? x start token =
        some (x.deployment.list start.now (Registry.key user.id) start.store).1 ∧
          x.Still start w w') := by
  unfold resolve
  refine (decode_tandem h).bind ?_
  rintro payload payload' w w' n ⟨hsubject, hkind, hopen, hw⟩
  have hsame : payload'.user = payload.user := by
    unfold Token.Payload.user
    rw [hsubject]
  have hkindOf : payload'.isOf .refresh = payload.isOf .refresh := by
    unfold Token.Payload.isOf
    rw [hkind]
  rw [hsame]
  cases hid : payload.user with
  | error e => exact .error hw.butForLists
  | ok id =>
    have hfinds : ∀ st found, x.view.front st = x.view.front start.store →
        (x.deployment.users unit (.findById id) st).1 = .ok found →
        ∀ user, found = some user → (x.users start.store).find? (·.id == id) = some user := by
      rintro st _ hfront hfound user rfl
      have hfind := x.fits.find?_of_findById unit id st user hfound
      rw [hfront] at hfind
      exact hfind
    refine Tandem.bind (Tandem.users_still (.findById id) hfinds) ?_ w w' n hw
    rintro _ found w w' n ⟨rfl, hfind, hw⟩
    cases found with
    | none => exact .error hw.butForLists
    | some user =>
      dsimp only
      rw [hkindOf]
      split
      · rename_i hrefresh
        have hbearer := bearer_eq_ok hopen hid (hfind user rfl) hrefresh
        refine .ok ⟨rfl, ?_, hw⟩
        unfold entries?
        rw [hbearer]
        rfl
      · exact .error hw.butForLists

/-- Two passwords that are verified alike let the same user in, or nobody. -/
theorem credentials_tandem {login : String} {password password' : Password.ClearText}
    (h : ∀ user, (x.users start.store).find? (·.hasLogin login) = some user →
      s.verify user.passwordHash password' = s.verify user.passwordHash password) :
    x.Tandem unit mishaps (x.Still start) (s.credentials login password)
      (s.credentials login password') (Setup.Same (x.Still start)) := by
  have hfinds : ∀ st found, x.view.front st = x.view.front start.store →
      (x.deployment.users unit (.findByLogin login) st).1 = .ok found →
      ∀ user, found = some user → (x.users start.store).find? (·.hasLogin login) = some user := by
    rintro st _ hfront hfound user rfl
    have hfind := x.fits.find?_of_findByLogin unit login st user hfound
    rw [hfront] at hfind
    exact hfind
  unfold credentials
  refine (Tandem.users_still (.findByLogin login) hfinds).bind ?_
  rintro _ found w w' n ⟨rfl, hfind, hw⟩
  cases found with
  | none => exact .error hw.butForLists
  | some user =>
    dsimp only
    rw [h user (hfind user rfl)]
    split
    · exact .ok ⟨rfl, hw⟩
    · exact .error hw.butForLists

end Service

/-! ### The registry -/

namespace Session.Registry

open Setup (Still BothLegible EquallyFull Tandem)

variable {start : World x.Store} {r : Registry} {user : UserId} {token token' : String}

/-- Two sessions are added alike. -/
theorem register_tandem (f f' token : String) (ttl : Nat) :
    x.Tandem unit mishaps (x.EquallyFull unit r (key user)) (r.register user f token ttl)
      (r.register user f' token ttl) (Setup.Same (x.ButForLists unit)) := by
  have hpush : x.Tandem unit mishaps (x.BothLegible unit (key user))
      (do Call.pushTo (key user) (Entry.encode ⟨f, token⟩) ttl; Call.log (.sessionRegistered user))
      (do Call.pushTo (key user) (Entry.encode ⟨f', token⟩) ttl; Call.log (.sessionRegistered user))
      (Setup.Same (x.ButForLists unit)) :=
    (Tandem.pushTo_tandem _ _ ttl).bind_same fun _ => .log Setup.ButForLists.keeps _
  unfold register
  refine Tandem.readList_equallyFull.bind ?_
  rintro entries entries' w w' n ⟨hsizes, hw⟩
  rcases reported?_eq_iff.mp hsizes with hsame | ⟨hroom, hroom'⟩
  · rw [hsame]
    split
    · refine Tandem.bind_same (Tandem.log BothLegible.keeps _) (fun _ => ?_) w w' n hw
      exact Tandem.dropList_tandem.bind_same fun _ => hpush
    · exact hpush w w' n hw
  · rw [if_neg (by omega), if_neg (by omega)]
    exact hpush w w' n hw

/-- Two sessions are looked for, and found and taken out alike. -/
theorem consume_tandem {f f' : String}
    (hfinds : r.leaves? (x.deployment.list start.now (key user) start.store).1
        (find? f' token' (x.deployment.list start.now (key user) start.store).1) =
      r.leaves? (x.deployment.list start.now (key user) start.store).1
        (find? f token (x.deployment.list start.now (key user) start.store).1)) :
    x.Tandem unit mishaps (x.Still start) (consume user f token) (consume user f' token')
      (fun found found' w w' => found' = found ∧ x.ButForLists unit w w' ∧
        (found = true → x.EquallyFull unit r (key user) w w')) := by
  unfold consume
  refine Tandem.readList_still.bind ?_
  rintro _ entries w w' n ⟨rfl, hentries, hw⟩
  rw [← hentries] at hfinds
  unfold leaves? at hfinds
  split
  · exact .ok ⟨rfl, hw.1.butForLists, fun h => by cases h⟩
  · cases hfound : find? f token entries with
    | none =>
      rw [hfound, Option.map_none, Option.map_eq_none_iff] at hfinds
      rw [hfinds]
      refine Tandem.post (Tandem.refl _) ?_ w w' n hw.1.same
      rintro found _ w _ ⟨rfl, rfl⟩
      exact ⟨rfl, .refl _, fun _ => Or.inl rfl⟩
    | some raw =>
      rw [hfound, Option.map_some] at hfinds
      obtain ⟨raw', hfound', hsizes⟩ := Option.map_eq_some_iff.mp hfinds
      rw [hfound']
      refine Tandem.bind (Tandem.removeFrom_tandem hentries (List.mem_of_find?_eq_some hfound)
        (List.mem_of_find?_eq_some hfound')) ?_ w w' n hw
      rintro _ removed w w' n ⟨rfl, hboth, hlist, hlist'⟩
      rw [← hlist, ← hlist'] at hsizes
      cases removed with
      | true => exact .ok ⟨rfl, hboth.toButForLists, fun _ => Or.inr ⟨hboth, hsizes⟩⟩
      | false =>
        refine Tandem.bind_same (Tandem.log BothLegible.keeps _) (fun _ => ?_) w w' n hboth
        exact Tandem.dropList_tandem.bind_same fun _ =>
          .pure fun _ _ h => ⟨rfl, h.toButForLists, nofun⟩

/-- Two sessions are looked for by their tokens, and found and taken out alike. -/
theorem revoke_tandem
    (hfinds : (findToken? token' (x.deployment.list start.now (key user) start.store).1).isSome =
      (findToken? token (x.deployment.list start.now (key user) start.store).1).isSome) :
    x.Tandem unit mishaps (x.Still start) (revoke user token) (revoke user token')
      (Setup.Same (x.ButForLists unit)) := by
  unfold revoke
  refine Tandem.readList_still.bind ?_
  rintro _ entries w w' n ⟨rfl, hentries, hw⟩
  rw [← hentries] at hfinds
  cases hfound : findToken? token entries with
  | none =>
    rw [hfound, Option.isSome_none, Option.isSome_eq_false_iff, Option.isNone_iff_eq_none]
      at hfinds
    rw [hfinds]
    exact .ok ⟨rfl, hw.1.butForLists⟩
  | some raw =>
    rw [hfound] at hfinds
    obtain ⟨raw', hfound'⟩ := Option.isSome_iff_exists.mp hfinds
    rw [hfound']
    refine Tandem.post (Tandem.removeFrom_tandem hentries (List.mem_of_find?_eq_some hfound)
      (List.mem_of_find?_eq_some hfound')) ?_ w w' n hw
    rintro removed removed' w w' ⟨hsame, hboth, _, _⟩
    exact ⟨hsame, hboth.toButForLists⟩

end Session.Registry

/-! ### The service -/

namespace Service

open Setup (Still EquallyFull Tandem Same)

variable {start : World x.Store} {s : Service}

theorem encode_tandem {P : World x.Store → World x.Store → Prop} (hP : x.Keeps unit P)
    (c : Token.Codec) (subject : String) (kind : Token.Kind) :
    x.Tandem unit mishaps P (c.encode subject kind) (c.encode subject kind) (Same P) := by
  unfold Token.Codec.encode Token.Codec.encodeWith
  simp only [Option.isNone_some, Bool.and_false, Bool.false_eq_true, if_false]
  exact (Tandem.clock hP).bind_same fun now => (Tandem.random hP 128).bind_same fun id =>
    (Tandem.random hP 512).bind_same fun noise => .ofExcept hP.butForLists _

/-- Tokens are made without regard to fingerprints. -/
theorem issue_tandem (user : UserId) (f f' : Fingerprint) :
    x.Tandem unit mishaps (x.EquallyFull unit s.registry (Registry.key user)) (s.issue user f)
      (s.issue user f') (Same (x.ButForLists unit)) := by
  have hkeeps : x.Keeps unit (x.EquallyFull unit s.registry (Registry.key user)) :=
    EquallyFull.keeps
  unfold issue
  refine (encode_tandem hkeeps _ _ .refresh).bind_same fun made => ?_
  refine (encode_tandem hkeeps _ _ .access).bind_same fun madeToo => ?_
  refine (Tandem.clock hkeeps).bind_same fun now => ?_
  exact (Registry.register_tandem _ _ _ _).bind_same fun _ => .pure fun _ _ h => ⟨rfl, h⟩

theorem login_tandem {login : String} {password password' : Password.ClearText}
    (h : ∀ user, (x.users start.store).find? (·.hasLogin login) = some user →
      s.verify user.passwordHash password' = s.verify user.passwordHash password)
    (f f' : Fingerprint) :
    x.Tandem unit mishaps (x.Still start) (s.login login password f) (s.login login password' f')
      (Same (x.ButForLists unit)) := by
  refine Tandem.inUnit Still.keeps ((credentials_tandem h).bind_same fun user => ?_)
  refine ((issue_tandem user.id f f').pre fun w w' hw => Or.inl hw.same).bind_same fun tokens => ?_
  exact (Tandem.log Setup.ButForLists.keeps _).bind_same fun _ => .pure fun _ _ h => ⟨rfl, h⟩

theorem refresh_tandem {f f' : Fingerprint} {token token' : String}
    (hreads : s.reads start.now token' = s.reads start.now token)
    (hfinds : ∀ entries, s.entries? x start token = some entries →
      s.registry.leaves? entries (Registry.find? f'.text token' entries) =
        s.registry.leaves? entries (Registry.find? f.text token entries)) :
    x.Tandem unit mishaps (x.Still start) (s.refresh f token) (s.refresh f' token')
      (Same (x.ButForLists unit)) := by
  refine Tandem.inUnit Still.keeps ((resolve_tandem hreads).bind ?_)
  rintro _ user w w' n ⟨rfl, hentries, hw⟩
  refine Tandem.bind (Registry.consume_tandem (hfinds _ hentries)) ?_ w w' n hw
  rintro _ found w w' n ⟨rfl, hworlds, hfull⟩
  split
  · rename_i hfound
    refine Tandem.bind_same (issue_tandem user.id f f') (fun tokens => ?_) w w' n (hfull hfound)
    exact (Tandem.log Setup.ButForLists.keeps _).bind_same fun _ => .pure fun _ _ h => ⟨rfl, h⟩
  · exact .error hworlds

theorem logout_tandem {token token' : String}
    (hreads : s.reads start.now token' = s.reads start.now token)
    (hfinds : ∀ entries, s.entries? x start token = some entries →
      (Registry.findToken? token' entries).isSome = (Registry.findToken? token entries).isSome) :
    x.Tandem unit mishaps (x.Still start) (s.logout token) (s.logout token')
      (Same (x.ButForLists unit)) := by
  refine Tandem.inUnit Still.keeps ((resolve_tandem hreads).bind ?_)
  rintro _ user w w' n ⟨rfl, hentries, hw⟩
  refine Tandem.bind_same (Registry.revoke_tandem (hfinds _ hentries)) (fun found => ?_) w w' n hw
  split
  · exact .log Setup.ButForLists.keeps _
  · exact .throw (fun _ _ h => h) _

/-- **Requests that differ in secrets only are carried out in tandem.** -/
theorem serve_tandem {q q' : Request} (h : q.Conceals x s start s.registry.leaves? q') :
    x.Tandem unit mishaps (x.Still start) (s.serve q) (s.serve q') (Same (x.ButForLists unit)) := by
  cases h with
  | login hverdict => exact (login_tandem hverdict _ _).map some
  | refresh hreads hfinds => exact (refresh_tandem hreads hfinds).map some
  | logout hreads hfinds =>
    exact (logout_tandem hreads hfinds).bind_same fun _ => .pure fun _ _ h => ⟨rfl, h⟩

end Service

end SessionAuth
