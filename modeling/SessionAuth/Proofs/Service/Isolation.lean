/-
Users are isolated.

Whatever an operation is asked with, and whatever goes wrong meanwhile, it asks the cache for
one list at most: that of the user whom it has found in the table, by the login or by the id
that the subject of the token spells.  Two users have different keys, so the lists of all
others stay as they are, with the time that they have left, and operations that act for
different users commute.

That an operation keeps to one list was seen from its program (`call_meets`), where nothing
is expected of the replies.  Here it meets the store: what a command may change and depend on
is known for every setup (`Setup.fits`).
-/
import SessionAuth.Proofs.Deployment.Apart
import SessionAuth.Proofs.Service.Operation
import SessionAuth.Proofs.Service.Schedule
import SessionAuth.Proofs.Session.Registry
import SessionAuth.Proofs.UserId.Spelling

namespace SessionAuth

namespace Service

open Session (Registry)

/-- The subject of the token spells the id of the user, who is the first with it in the table. -/
def SpeaksOf (s : Service) (us : List User) (asked : List Asked) (token : String) (user : User) :
    Prop :=
  us.find? (·.id == user.id) = some user ∧ ∃ now payload, ⟨.clock, now⟩ ∈ asked ∧
    Token.Codec.open? s.codec.verificationKey s.codec.algorithm now token = some payload ∧
    user.id.IsSpelled payload.subject

/-- How an operation knows who the user is, given the table of users. -/
def Operation.Identifies (s : Service) (us : List User) (asked : List Asked) (user : User) :
    Operation → Prop
  | .login name _ _ => us.find? (·.hasLogin name) = some user
  | .refresh _ token | .logout token | .authenticate token _ => s.SpeaksOf us asked token user

variable {s : Service} {op : Operation} {user : User} {asked : List Asked} {us : List User}

theorem speaksOf_of_bears {token : String} {kind : Token.Kind} (h : s.Bears token kind asked user)
    (hfinds : ∀ x ∈ asked, View.Fits.Finds us x) : s.SpeaksOf us asked token user := by
  obtain ⟨now, payload, id, hnow, hopen, hid, _, hfound⟩ := h
  have hfirst : us.find? (·.id == id) = some user := (hfinds _ hfound).1 id user rfl
  obtain rfl : user.id = id := by simpa using List.find?_some hfirst
  refine ⟨hfirst, now, payload, hnow, hopen, ?_⟩
  unfold Token.Payload.user at hid
  split at hid
  · rename_i id' hparse
    cases hid
    exact UserId.parse?_eq_some_iff.mp hparse
  · cases hid

/-- The user for whom an operation acts is the one whom it identifies. -/
theorem identifies_of_actsFor (h : op.ActsFor s asked user)
    (hfinds : ∀ x ∈ asked, View.Fits.Finds us x) : op.Identifies s us asked user := by
  cases op with
  | login name password fingerprint => exact (hfinds _ h.1).2 name user rfl
  | refresh fingerprint token => exact speaksOf_of_bears h hfinds
  | logout token => exact speaksOf_of_bears h hfinds
  | authenticate token expected => exact speaksOf_of_bears h hfinds

/-- Equal ids have equal keys, and no others have. -/
theorem key_eq_iff {a b : UserId} : Registry.key a = Registry.key b ↔ a = b :=
  ⟨Registry.key_inj, congrArg Registry.key⟩

section Backend

variable {σ : Type} {b : Backend σ} {unit : Nat} {mishaps : Nat → Option Mishap} {w : World σ}

/-- **Over whatever backend, an operation keeps to one list**, that of the user it acts for. -/
theorem reaches_one (s : Service) (op : Operation) :
    (∀ key, ¬ Reaches (b.asked unit mishaps (s.call op) w) key) ∨
      ∃ user, op.ActsFor s (b.asked unit mishaps (s.call op) w) user ∧
        ∀ key, Reaches (b.asked unit mishaps (s.call op) w) key → key = Registry.key user.id := by
  have hkeeps : op.KeepsTo s ((b.asked unit mishaps (s.call op) w).reverse ++ []) :=
    Program.Meets.record_ends (call_meets s op fun _ _ => List.not_mem_nil) (w, 0)
  rw [List.append_nil] at hkeeps
  rcases hkeeps with hnone | ⟨user, hacting⟩
  · left
    rintro key ⟨c, reply, hmem, _⟩
    exact hnone c reply (List.mem_reverse.mpr hmem)
  · right
    refine ⟨user, hacting.actsFor.of_subset fun x hx => List.mem_reverse.mp hx, ?_⟩
    rintro key ⟨c, reply, hmem, rfl⟩
    exact hacting.keys c reply (List.mem_reverse.mpr hmem)

/-- Who is not acted for is not reached. -/
theorem not_reaches {other : UserId}
    (h : ∀ user, op.ActsFor s (b.asked unit mishaps (s.call op) w) user → user.id ≠ other) :
    ¬ Reaches (b.asked unit mishaps (s.call op) w) (Registry.key other) := by
  intro hreached
  rcases reaches_one s op with hnone | ⟨user, hacts, hkey⟩
  · exact hnone _ hreached
  · exact h user hacts (Registry.key_inj (hkey _ hreached)).symm

end Backend

/--
**Users are isolated.**  In every setup, with any mishaps, an operation reaches for one key at
most, `auth:` and the digits of the user whom it has identified; the lists of all other users,
and the time that they have left, stay as they are; and operations for different users, each
with its own clock, random bits and mishaps, commute.
-/
theorem users_isolated (x : Setup) (s : Service) (op : Operation) (unit : Nat)
    (mishaps : Nat → Option Mishap) {w : World x.Store} (hready : x.Ready w.store) :
    let asked := x.deployment.asked unit mishaps (s.call op) w
    let first := x.deployment.perform unit mishaps (s.call op) w
    ((∀ key, ¬ Reaches asked key) ∨
      ∃ user, op.ActsFor s asked user ∧ op.Identifies s (x.users w.store) asked user ∧
        ∀ key, Reaches asked key → key = Registry.key user.id) ∧
    (∀ id, Registry.key id = "auth:" ++ String.ofList ((List.range 32).map fun place =>
      Bytes.hexDigit (id.bits.toNat / 16 ^ (31 - place) % 16))) ∧
    (∀ a b, Registry.key a = Registry.key b ↔ a = b) ∧
    (∀ id text, UserId.parse? text = some id ↔ id.IsSpelled text) ∧
    (∀ other, (∀ user, op.ActsFor s asked user → user.id ≠ other) → ∀ now,
      x.deployment.list now (Registry.key other) first.2.store =
        x.deployment.list now (Registry.key other) w.store) ∧
    ∀ (op' : Operation) (unit' : Nat) (mishaps' : Nat → Option Mishap) (w' : World x.Store),
      w'.store = w.store →
      (∀ user user', op.ActsFor s asked user →
        op'.ActsFor s (x.deployment.asked unit' mishaps' (s.call op') w') user' →
        user.id ≠ user'.id) →
      let second := x.deployment.perform unit' mishaps' (s.call op') w'
      let secondAfter := x.deployment.perform unit' mishaps' (s.call op')
        { w' with store := first.2.store }
      let firstAfter := x.deployment.perform unit mishaps (s.call op)
        { w with store := second.2.store }
      secondAfter.1 = second.1 ∧ firstAfter.1 = first.1 ∧
        ∀ now key, x.deployment.list now key secondAfter.2.store =
          x.deployment.list now key firstAfter.2.store := by
  intro asked first
  have hview : x.view.Ready w.store := (x.ready_view w.store).mpr hready
  have hopens : ∀ op, (s.call op).Opens := by
    intro op
    rw [call_eq]
    exact Call.opens_inUnit _
  refine ⟨?_, ?_, fun a b => key_eq_iff, fun id text => UserId.parse?_eq_some_iff, ?_, ?_⟩
  · have hone : (∀ key, ¬ Reaches asked key) ∨ ∃ user, op.ActsFor s asked user ∧
        ∀ key, Reaches asked key → key = Registry.key user.id := reaches_one s op
    rcases hone with hnone | ⟨user, hacts, hkey⟩
    · exact Or.inl hnone
    · exact Or.inr ⟨user, hacts, identifies_of_actsFor hacts (x.fits.finds_asked hview), hkey⟩
  · intro id
    unfold Registry.key UserId.toHex
    rw [UserId.digits_eq]
  · intro other hother now
    exact x.fits.list_congr now _ _ _ ((x.fits.spares hview).cell _ (not_reaches hother))
  · intro op' unit' mishaps' w' hstore hothers
    have hapart : ∀ key, Reaches asked key →
        ¬ Reaches (x.deployment.asked unit' mishaps' (s.call op') w') key := by
      intro key hreached hreached'
      rcases reaches_one s op with hnone | ⟨user, hacts, hkey⟩
      · exact hnone key hreached
      · rcases reaches_one s op' with hnone' | ⟨user', hacts', hkey'⟩
        · exact hnone' key hreached'
        · exact hothers user user' hacts hacts'
            (Registry.key_inj ((hkey key hreached).symm.trans (hkey' key hreached')))
    obtain ⟨hresult', hresult, hcells⟩ :=
      x.fits.commute (hopens op) (hopens op') hview hstore hapart
    exact ⟨hresult', hresult, fun now key => x.fits.list_congr now key _ _ (hcells key)⟩

namespace Sample

def bob : User := { id := ⟨2⟩, login := "bob", passwordHash := "trout" }

/-- Ada and Bob are in the table, and nothing has been asked of the service. -/
def town : World Setup.remote.Store := ⟨({}, { users := [ada, bob] }), .ofSeconds 0, ⟨[], 0⟩, []⟩

def adasLogin : Operation := .login "ada" ⟨"swordfish"⟩ fingerprint

def bobsLogin : Operation := .login "bob" ⟨"trout"⟩ tablet

/-- What an operation asks in that town. -/
def askedInTown (op : Operation) : List Asked :=
  Setup.remote.deployment.asked 0 (fun _ => none) ((service 3).call op) town

/-- What comes of an operation in that town, after others have left the store like this. -/
def doneInTown (op : Operation) (store : Setup.remote.Store) :
    Except AuthError op.Reply × World Setup.remote.Store :=
  Setup.remote.deployment.perform 0 (fun _ => none) ((service 3).call op)
    { town with store := store }

theorem ada_of_actsFor {user : User}
    (h : adasLogin.ActsFor (service 3) (askedInTown adasLogin) user) : user = ada := by
  have hfind : [ada, bob].find? (·.hasLogin "ada") = some user :=
    identifies_of_actsFor h (Setup.remote.fits.finds_asked rfl)
  have hada : [ada, bob].find? (·.hasLogin "ada") = some ada := by decide
  exact Option.some.inj (hfind.symm.trans hada)

theorem bob_of_actsFor {user : User}
    (h : bobsLogin.ActsFor (service 3) (askedInTown bobsLogin) user) : user = bob := by
  have hfind : [ada, bob].find? (·.hasLogin "bob") = some user :=
    identifies_of_actsFor h (Setup.remote.fits.finds_asked rfl)
  have hbob : [ada, bob].find? (·.hasLogin "bob") = some bob := by decide
  exact Option.some.inj (hfind.symm.trans hbob)

end Sample

/-- Ada and Bob log in, in either order. -/
theorem users_isolated_logins : Setup.remote.Ready Sample.town.store ∧
    (∀ key, Reaches (Sample.askedInTown Sample.adasLogin) key →
      key = Registry.key Sample.ada.id) ∧
    (∀ now, Setup.remote.deployment.list now (Registry.key Sample.bob.id)
        (Sample.doneInTown Sample.adasLogin Sample.town.store).2.store =
      Setup.remote.deployment.list now (Registry.key Sample.bob.id) Sample.town.store) ∧
    (Sample.doneInTown Sample.bobsLogin
        (Sample.doneInTown Sample.adasLogin Sample.town.store).2.store).1 =
      (Sample.doneInTown Sample.bobsLogin Sample.town.store).1 := by
  obtain ⟨hkeys, _, _, _, hothers, hcommute⟩ := users_isolated .remote (Sample.service 3)
    Sample.adasLogin 0 (fun _ => none) (w := Sample.town) rfl
  have hdiffer : Sample.ada.id ≠ Sample.bob.id := by decide
  refine ⟨rfl, ?_, ?_, ?_⟩
  · intro key hreached
    rcases hkeys with hnone | ⟨user, hacts, _, hkey⟩
    · exact absurd hreached (hnone key)
    · rw [hkey key hreached, Sample.ada_of_actsFor hacts]
  · refine hothers _ ?_
    intro user hacts
    rw [Sample.ada_of_actsFor hacts]
    exact hdiffer
  · refine (hcommute Sample.bobsLogin 0 (fun _ => none) Sample.town rfl ?_).1
    intro user user' hacts hacts'
    rw [Sample.ada_of_actsFor hacts, Sample.bob_of_actsFor hacts']
    exact hdiffer

end Service

end SessionAuth
