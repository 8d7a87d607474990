/-
What a refresh leaves in the log.

A refresh that finds its session takes it out of the list, with all of its copies, and adds a new
one.  So it reports the cap if the sessions that are left have reached it, then the new session,
and at last who has refreshed, and until when that lasts (`Alone.refresh_reports`).

The rules of `Proofs/Service/Alone.lean` leave the log open, because no call reads it.  Here the
worlds are followed exactly, up to the random bits that were drawn.
-/
import SessionAuth.Proofs.Service.Alone
import SessionAuth.Proofs.Service.Lists

namespace SessionAuth

open Session (Registry Entry Fingerprint)

/-- What is reported when a session is added to a list that holds so many. -/
def Session.Registry.reports (r : Registry) (user : UserId) (sessions : Nat) : List Event :=
  ((r.reported? sessions).map (Event.sessionCapReached user)).toList ++ [.sessionRegistered user]

namespace Service

variable {α : Type} {source : Source} {unit : Nat} {s : Service} {w w₁ : World Store}

/-- The world with something more in its log. -/
def reporting (w : World Store) (events : List Event) : World Store :=
  { w with events := w.events ++ events }

theorem reporting_append (events events' : List Event) :
    reporting w (events ++ events') = reporting (reporting w events) events' := by
  unfold reporting
  rw [List.append_assoc]

/-- The world with other random bits to come. -/
def drawing (w : World Store) (entropy : Entropy) : World Store := { w with entropy := entropy }

namespace Alone

variable {user : UserId} {f : Fingerprint}

theorem log_reports (source : Source) (unit : Nat) (event : Event) (w : World Store) :
    Alone source unit (Call.log event) w (.ok ()) (reporting w [event]) := rfl

/-- Tokens are made without a report. -/
theorem encode_drawing (source : Source) (unit : Nat) (s : Service) (subject : String)
    (kind : Token.Kind) (w : World Store) :
    ∃ x y entropy, Alone source unit (s.codec.encode subject kind) w
      (s.codec.mint w.now (.ofRandom (source x 128).1) (source y 512).1 subject (some kind) {})
        (drawing w entropy) := by
  refine ⟨w.entropy, (source w.entropy 128).2, (source (source w.entropy 128).2 512).2, ?_⟩
  unfold Token.Codec.encode Token.Codec.encodeWith
  simp only [Option.isNone_some, Bool.and_false, Bool.false_eq_true, if_false]
  exact bind (clock w) rfl

theorem register_reports (source : Source) (unit : Nat) (r : Registry) (user : UserId)
    (fingerprint token : String) (ttl : Nat) (w : World Store) :
    Alone source unit (r.register user fingerprint token ttl) w (.ok ())
      (reporting (withCache w (registered r w.now (Registry.key user)
          (Entry.encode ⟨fingerprint, token⟩) ttl w.store.1))
        (r.reports user (sessions w (Registry.key user)).length)) := by
  unfold Registry.register Registry.reports Registry.reported? registered
  refine bind (readList _ w) ?_
  by_cases hfull : r.maxSessions ≤ (sessions w (Registry.key user)).length
  · have hfull' : r.maxSessions ≤ (w.store.1.values w.now (Registry.key user)).length := hfull
    rw [if_pos hfull, if_pos hfull, if_pos hfull']
    refine bind (log_reports _ _ _ w) (bind (dropList _ _) (bind (pushTo _ _ _ _) ?_))
    rw [Option.map_some, Option.toList_some, reporting_append]
    exact log_reports _ _ _ _
  · have hfull' : ¬ r.maxSessions ≤ (w.store.1.values w.now (Registry.key user)).length := hfull
    rw [if_neg hfull, if_neg hfull, if_neg hfull']
    exact bind (pushTo _ _ _ _) (log_reports _ _ _ _)

/-- A pair of tokens is made without a report of its own. -/
theorem issue_reports (source : Source) (unit : Nat) (s : Service) (f : Fingerprint)
    (hmint : s.CanMint user w.now) :
    ∃ tokens w', Alone source unit (s.issue user f) w (.ok tokens) w' ∧
      w'.events = w.events ++ s.registry.reports user (sessions w (Registry.key user)).length := by
  obtain ⟨x, y, entropy, hrefresh⟩ := encode_drawing source unit s user.toHex .refresh w
  obtain ⟨x', y', entropy', haccess⟩ :=
    encode_drawing source unit s user.toHex .access (drawing w entropy)
  obtain ⟨⟨expiry, refresh⟩, hminted⟩ :=
    hmint (.ofRandom (source x 128).1) (source y 512).1 .refresh
  obtain ⟨⟨expiry', access⟩, hminted'⟩ :=
    hmint (.ofRandom (source x' 128).1) (source y' 512).1 .access
  rw [hminted] at hrefresh
  rw [show (drawing w entropy).now = w.now from rfl, hminted'] at haccess
  have hregister := register_reports source unit s.registry user f.text refresh
    (w.now.secondsUntil expiry) (drawing (drawing w entropy) entropy')
  exact ⟨⟨access, refresh, expiry, w.now.secondsUntil expiry⟩, _,
    bind hrefresh (bind haccess (bind (clock _) (bind hregister (pure _ _)))), rfl⟩

/-! ### Operations -/

/-- Ending a unit of work well is not reported. -/
theorem inUnit_reports {work : Call α} {value : α} (w₁ : World Store)
    (h : Alone source unit work (begun unit w) (.ok value) w₁) :
    ∃ w', Alone source unit (Call.inUnit work) w (.ok value) w' ∧ w'.events = w₁.events :=
  ⟨{ w₁ with store := (w₁.store.1, w₁.store.2.commit unit) },
    bind (users source unit .begin w) (bind (lift h) (bind (users source unit .commit w₁)
      (pure value _))), rfl⟩

/-- The user of a refresh token that is accepted is found without a report. -/
theorem resolve_reports {user : User} {token : String} (hopen : IsOpen unit w)
    (h : s.bearer w.store.2.users w.now token = .ok user) :
    Alone source unit (s.resolve token .refresh) w (.ok user) w := by
  obtain ⟨payload, hread, hid, hfind, hkind⟩ := exists_payload_of_bearer h
  have hdecode : Alone source unit (s.codec.decode token) w (.ok payload) w := by
    unfold Token.Codec.decode Token.Codec.decodeWith
    simp only [Option.getD_none]
    refine bind (clock w) ?_
    rw [hread]
    exact pure payload w
  unfold Service.resolve
  refine bind hdecode ?_
  rw [hid]
  refine bind (ofExcept _ w) (bind (userById hopen) ?_)
  rw [hfind]
  simp only [hkind, if_true]
  exact pure user w

/-- **A refresh that finds its session reports how many others reach the cap, and the new one.** -/
theorem refresh_reports (source : Source) (unit : Nat) {user : User} {token raw : String}
    (h : s.bearer w.store.2.users w.now token = .ok user)
    (hfind : Registry.find? f.text token (sessions w (Registry.key user.id)) = some raw)
    (hmint : s.CanMint user.id w.now) :
    ∃ tokens w', Alone source unit (s.serve (.refresh f token)) w (.ok (some tokens)) w' ∧
      w'.events = w.events ++ s.registry.reports user.id
          ((sessions w (Registry.key user.id)).filter (· != raw)).length ++
        [.refreshed user.id tokens.expiresAt] := by
  have hbegun := settled_begun unit w
  have hresolve : Alone source unit (s.resolve token .refresh) (begun unit w) (.ok user)
      (begun unit w) := by
    refine resolve_reports (isOpen_begun unit w) ?_
    rw [hbegun.users]
    exact h
  rw [← hbegun.sessions] at hfind
  obtain ⟨tokens, w₁, hissue, hevents⟩ := issue_reports
    (w := withCache (begun unit w) (w.store.1.remove w.now (Registry.key user.id) raw).2)
    source unit s f hmint
  have hlog := log_reports source unit (.refreshed user.id tokens.expiresAt) w₁
  obtain ⟨w', halone, hlast⟩ : ∃ w', Alone source unit (s.refresh f token) w (.ok tokens) w' ∧
      w'.events = w₁.events ++ [Event.refreshed user.id tokens.expiresAt] := by
    refine inUnit_reports (reporting w₁ [.refreshed user.id tokens.expiresAt]) ?_
    exact bind hresolve (bind (consume_found hfind) (bind hissue (bind hlog (pure tokens _))))
  refine ⟨tokens, w', map halone, ?_⟩
  rw [hlast, hevents, sessions_withCache]
  show _ ++ s.registry.reports user.id
    (((w.store.1.remove w.now (Registry.key user.id) raw).2).values w.now _).length ++ _ = _
  rw [Cache.Memory.values_remove_self]
  rfl

end Alone

end Service

end SessionAuth
