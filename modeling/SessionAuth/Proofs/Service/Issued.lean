/-
What a call has done that came to tokens.

A result leaves no choice.  A sequence that came to one came to one in each of its parts, so a
login or a refresh can be read backwards, over any backend and whatever it refuses otherwise:
a transaction was begun, somebody was found in it, tokens were made and the session was added,
and the commit that came last did not fail either (`login_eq_ok`, `refresh_eq_ok`).  That the
clock shows the same all along is because nothing else happens in a run.
-/
import SessionAuth.Proofs.Deployment.Listed
import SessionAuth.Proofs.Service.Alone
import SessionAuth.Proofs.Service.Authentication

namespace SessionAuth

open Session (Registry Entry Fingerprint)

variable {σ α : Type} {b : Backend σ} {w w₁ w' : World σ}

namespace Backend

/-- A token that was made was made at the time of day, with random bits of the world. -/
theorem encode_eq_ok {c : Token.Codec} {subject : String} {kind : Token.Kind}
    {made : Instant × String} (h : b.runCall (c.encode subject kind) w = (.ok made, w₁)) :
    (∃ x y, c.mint w.now (.ofRandom (Entropy.bits x 128).1) (Entropy.bits y 512).1 subject
        (some kind) {} = .ok made) ∧ w₁.store = w.store ∧ w₁.now = w.now := by
  have hrun : b.runCall (c.encode subject kind) w =
      (c.mint w.now (.ofRandom (w.entropy.bits 128).1) ((w.entropy.bits 128).2.bits 512).1 subject
        (some kind) {}, { w with entropy := ((w.entropy.bits 128).2.bits 512).2 }) := rfl
  obtain ⟨hmint, rfl⟩ := Prod.mk.inj (hrun.symm.trans h)
  exact ⟨⟨_, _, hmint⟩, rfl, rfl⟩

end Backend

namespace Service

variable {s : Service} {user : UserId} {fingerprint : Fingerprint} {token : String}
  {tokens : IssuedTokens}

/-! ### Sessions -/

/-- **A session that was added was pushed after its list was read.** -/
theorem register_eq_ok {r : Registry} {text : String} {ttl : Nat} {done : Unit}
    (h : b.runCall (r.register user text token ttl) w = (.ok done, w')) :
    b.Registers w.now (Registry.key user) (Entry.encode ⟨text, token⟩) ttl w.store w'.store := by
  have hpush : ∀ w₁ : World σ, b.runCall (do
      Call.pushTo (Registry.key user) (Entry.encode ⟨text, token⟩) ttl
      Call.log (.sessionRegistered user)) w₁ = (.ok done, w') →
      (b.cache w₁.now (.push (Registry.key user) (Entry.encode ⟨text, token⟩) (some ttl))
        w₁.store).1 = .ok () ∧
      w'.store = (b.cache w₁.now (.push (Registry.key user) (Entry.encode ⟨text, token⟩)
        (some ttl)) w₁.store).2 := by
    intro w₁ h
    obtain ⟨_, w₂, hpushed, hlog⟩ := Backend.runCall_bind_eq_ok h
    obtain ⟨hok, rfl⟩ := Backend.cache_eq_ok hpushed
    obtain rfl := Backend.log_eq_ok hlog
    exact ⟨hok, rfl⟩
  obtain ⟨entries, w₁, hread, h⟩ := Backend.runCall_bind_eq_ok h
  obtain ⟨hget, rfl⟩ := Backend.cache_eq_ok hread
  dsimp only at h
  split at h
  · obtain ⟨_, w₂, hlog, h⟩ := Backend.runCall_bind_eq_ok h
    obtain rfl := Backend.log_eq_ok hlog
    obtain ⟨_, w₃, hdrop, h⟩ := Backend.runCall_bind_eq_ok h
    obtain ⟨_, rfl⟩ := Backend.cache_eq_ok hdrop
    obtain ⟨hok, hlast⟩ := hpush _ h
    exact ⟨entries, _, hget, Or.inr rfl, hok, hlast⟩
  · obtain ⟨hok, hlast⟩ := hpush _ h
    exact ⟨entries, _, hget, Or.inl rfl, hok, hlast⟩

/-- A session was opened at a time: tokens were made for the user, and the session was added. -/
structure HasOpened (b : Backend σ) (s : Service) (user : UserId) (fingerprint : Fingerprint)
    (now : Instant) (tokens : IssuedTokens) (last : σ) : Prop where
  issues : s.Issues Entropy.bits user now tokens
  registers : ∃ before, b.Registers now (Registry.key user)
    (Entry.encode ⟨fingerprint.text, tokens.refresh⟩) tokens.maxAge before last

theorem issue_eq_ok (h : b.runCall (s.issue user fingerprint) w = (.ok tokens, w')) :
    HasOpened b s user fingerprint w.now tokens w'.store := by
  obtain ⟨⟨expiresAt, refresh⟩, w₁, hrefresh, h⟩ := Backend.runCall_bind_eq_ok h
  obtain ⟨⟨x, y, hrefresh⟩, hstore₁, hnow₁⟩ := Backend.encode_eq_ok hrefresh
  obtain ⟨⟨expiry, access⟩, w₂, haccess, h⟩ := Backend.runCall_bind_eq_ok h
  obtain ⟨⟨x', y', haccess⟩, hstore₂, hnow₂⟩ := Backend.encode_eq_ok haccess
  obtain ⟨now, w₃, hclock, h⟩ := Backend.runCall_bind_eq_ok h
  obtain ⟨rfl, rfl⟩ : w₂.now = now ∧ w₂ = w₃ := by
    obtain ⟨hnow, hworld⟩ := Prod.mk.inj hclock
    exact ⟨Except.ok.inj hnow, hworld⟩
  obtain ⟨_, w₄, hregister, hlast⟩ := Backend.runCall_bind_eq_ok h
  obtain ⟨rfl, rfl⟩ := Backend.pure_eq_ok hlast
  have hregisters := register_eq_ok hregister
  have hnow : w₂.now = w.now := hnow₂.trans hnow₁
  rw [hnow₁] at haccess
  rw [hnow] at hregisters ⊢
  exact ⟨⟨⟨x, y, hrefresh⟩, ⟨x', y', expiry, haccess⟩, rfl⟩, _, hregisters⟩

/-! ### Users -/

theorem credentials_eq_ok {login : String} {password : Password.ClearText} {u : User}
    (h : b.runCall (s.credentials login password) w = (.ok u, w')) :
    (b.users 0 (.findByLogin login) w.store).1 = .ok (some u) ∧
      s.verify u.passwordHash password = true ∧ w'.now = w.now := by
  obtain ⟨found, w₁, hfind, h⟩ := Backend.runCall_bind_eq_ok h
  obtain ⟨hfound, rfl⟩ := Backend.users_eq_ok hfind
  cases found with
  | none => exact (Backend.throw_ne_ok h).elim
  | some found =>
    dsimp only at h
    split at h
    · rename_i hverify
      obtain ⟨rfl, rfl⟩ := Backend.pure_eq_ok h
      exact ⟨hfound, hverify, rfl⟩
    · exact (Backend.throw_ne_ok h).elim

/-- A token that was resolved is a token of somebody who was found. -/
theorem resolve_eq_ok {expected : Token.Kind} {u : User}
    (h : b.runCall (s.resolve token expected) w = (.ok u, w')) :
    ∃ payload id, Token.Codec.open? s.codec.verificationKey s.codec.algorithm w.now token =
        some payload ∧ payload.isOf expected = true ∧ payload.user = .ok id ∧
      (b.users 0 (.findById id) w.store).1 = .ok (some u) ∧ w'.now = w.now := by
  obtain ⟨w₁, hresolve, hafter⟩ := runCall_resolve b s token expected w
  obtain ⟨hresult, rfl⟩ := Prod.mk.inj (hresolve.symm.trans h)
  obtain ⟨payload, id, hopen, hkind, huser, hfound⟩ := resolution_eq_ok hresult
  obtain ⟨id', rfl⟩ := hafter u hresult
  exact ⟨payload, id, hopen, hkind, huser, hfound, rfl⟩

/-! ### Operations -/

/-- An operation that came to a result has begun a transaction, worked in it and committed it. -/
theorem worked_of_called {op : Operation} {unit : Nat} {value : op.Reply}
    (h : called b s op unit w = (.ok value, w')) :
    ∃ w₁, worked b s op unit w = (.ok value, w₁) ∧
      (b.handle unit (.users .commit) w₁).2 = w' := by
  cases hbegin : (b.handle unit (.users .begin) w).1 with
  | error e => cases (called_of_refused hbegin).1.symm.trans h
  | ok _ =>
    cases hwork : (worked b s op unit w).1 with
    | error e => cases (called_of_error hbegin hwork).1.symm.trans (congrArg Prod.fst h)
    | ok value' =>
      obtain ⟨hresult, hlast⟩ := Prod.mk.inj ((called_of_ok hbegin hwork).symm.trans h)
      refine ⟨_, Prod.ext (hwork.trans ?_) rfl, hlast⟩
      cases hcommit : (b.handle unit (.users .commit) (worked b s op unit w).2).1 with
      | error e =>
        rw [hcommit] at hresult
        cases hresult
      | ok _ =>
        rw [hcommit] at hresult
        exact hresult

/-- **Whoever logged in was found under the login, and has opened a session.** -/
theorem login_eq_ok {login : String} {password : Password.ClearText}
    (h : b.runCall (s.login login password fingerprint) w = (.ok tokens, w')) :
    ∃ u last, (b.users 0 (.findByLogin login) (b.users 0 .begin w.store).2).1 = .ok (some u) ∧
      s.verify u.passwordHash password = true ∧
      HasOpened b s u.id fingerprint w.now tokens last ∧ w'.store = (b.users 0 .commit last).2 := by
  have hcalled : called b s (.login login password fingerprint) 0 w = (.ok tokens, w') := h
  obtain ⟨w₁, hwork, rfl⟩ := worked_of_called hcalled
  have hwork : b.runCall (s.work (.login login password fingerprint))
      (b.handle 0 (.users .begin) w).2 = (.ok tokens, w₁) := hwork
  obtain ⟨u, w₂, hcredentials, hrest⟩ := Backend.runCall_bind_eq_ok hwork
  obtain ⟨hfound, hverify, hnow⟩ := credentials_eq_ok hcredentials
  obtain ⟨_, w₃, hissue, hrest⟩ := Backend.runCall_bind_eq_ok hrest
  obtain ⟨_, w₄, hlog, hlast⟩ := Backend.runCall_bind_eq_ok hrest
  obtain rfl := Backend.log_eq_ok hlog
  obtain ⟨rfl, rfl⟩ := Backend.pure_eq_ok hlast
  have hopened := issue_eq_ok hissue
  rw [hnow] at hopened
  exact ⟨u, _, hfound, hverify, hopened, rfl⟩

/-- **Whoever refreshed was found by the token, and has opened a session.** -/
theorem refresh_eq_ok (h : b.runCall (s.refresh fingerprint token) w = (.ok tokens, w')) :
    ∃ payload id u last,
      Token.Codec.open? s.codec.verificationKey s.codec.algorithm w.now token = some payload ∧
      payload.isOf .refresh = true ∧ payload.user = .ok id ∧
      (b.users 0 (.findById id) (b.users 0 .begin w.store).2).1 = .ok (some u) ∧
      HasOpened b s u.id fingerprint w.now tokens last ∧ w'.store = (b.users 0 .commit last).2 := by
  have hcalled : called b s (.refresh fingerprint token) 0 w = (.ok tokens, w') := h
  obtain ⟨w₁, hwork, rfl⟩ := worked_of_called hcalled
  have hwork : b.runCall (s.work (.refresh fingerprint token))
      (b.handle 0 (.users .begin) w).2 = (.ok tokens, w₁) := hwork
  obtain ⟨u, w₂, hresolve, hrest⟩ := Backend.runCall_bind_eq_ok hwork
  obtain ⟨payload, id, hopen, hkind, huser, hfound, hnow⟩ := resolve_eq_ok hresolve
  obtain ⟨consumed, w₃, hconsume, hrest⟩ := Backend.runCall_bind_eq_ok hrest
  have hnow₃ : w₃.now = w₂.now := by
    rw [← Backend.now_runCall b (Registry.consume u.id fingerprint.text token) w₂, hconsume]
  cases consumed with
  | false => exact (Backend.throw_ne_ok hrest).elim
  | true =>
    obtain ⟨_, w₄, hissue, hrest⟩ := Backend.runCall_bind_eq_ok hrest
    obtain ⟨_, w₅, hlog, hlast⟩ := Backend.runCall_bind_eq_ok hrest
    obtain rfl := Backend.log_eq_ok hlog
    obtain ⟨rfl, rfl⟩ := Backend.pure_eq_ok hlast
    have hopened := issue_eq_ok hissue
    rw [hnow₃, hnow] at hopened
    exact ⟨payload, id, u, _, hopen, hkind, huser, hfound, hopened, rfl⟩

end Service

end SessionAuth
