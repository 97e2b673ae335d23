/-
Lobby/Proofs/Service/Requests.lean

Requests are refused or granted.

A request other than a claim is answered in the call.  Either it is refused, and then a response with
an outcome that is no success is queued and nothing else happens; or it is `Granted`, which says for
every kind of request what the service has found, what becomes of it, and which messages are sent.
What is granted for the account that a connection is logged in as is always the same: its record is
written back, changed (`Rewrites`).

Main result: `answered`, one case for each kind of request.  Nothing is supposed of the service or of
its store.
-/
import Lobby.Proofs.Handoff
import Lobby.Service
import Mathlib.Tactic.SplitIfs

namespace Lobby

/-! ### Responses -/

/-- The outcome that a response carries; no other message has one. -/
def Message.outcome? : Message → Option Status
  | loginResponse status => some status
  | logoutResponse status => some status
  | reconnectResponse status => some status
  | registerResponse status => some status
  | unregisterResponse status => some status
  | emailChangeResponse status => some status
  | emailGetResponse status _ => some status
  | passwordChangeResponse status => some status
  | characterCreateResponse status => some status
  | characterSelectResponse status _ => some status
  | characterDeleteResponse status => some status
  | characterInfo _ => none
  | connectionTimedOut => none
  | invalid => none

/-- The response to a request that tells an outcome and nothing else. -/
def Request.response : Request → Status → Message
  | login .., status => .loginResponse status
  | logout, status => .logoutResponse status
  | reconnect .., status => .reconnectResponse status
  | register .., status => .registerResponse status
  | unregister .., status => .unregisterResponse status
  | emailChange .., status => .emailChangeResponse status
  | emailGet, status => .emailGetResponse status none
  | passwordChange .., status => .passwordChangeResponse status
  | characterCreate .., status => .characterCreateResponse status
  | characterSelect .., status => .characterSelectResponse status none
  | characterDelete .., status => .characterDeleteResponse status

@[simp] theorem Request.outcome?_response (r : Request) (status : Status) :
    (r.response status).outcome? = some status := by
  cases r <;> rfl

theorem Request.kind_response (r : Request) (status : Status) :
    (r.response status).kind = r.kind ++ "Response" := by
  cases r <;> rfl

/-- An operation is refused, with an outcome that is no success. -/
def Refused {α : Type} (result : Except Status α) : Prop :=
  ∃ status, status ≠ .ok ∧ result = .error status

theorem Refused.error {α : Type} {status : Status} (h : status ≠ .ok) :
    Refused (.error status : Except Status α) := ⟨status, h, rfl⟩

/-! ### The rules -/

namespace Rules

theorem checkAppearance_cases (hairStyle hairColor gender : UInt8) :
    Refused (checkAppearance hairStyle hairColor gender) ∨
      checkAppearance hairStyle hairColor gender = .ok () := by
  simp only [checkAppearance]
  split_ifs
  · exact .inl (.error nofun)
  · exact .inl (.error nofun)
  · exact .inl (.error nofun)
  · exact .inr rfl

theorem checkAttributes_cases (a : Attributes) :
    Refused (checkAttributes a) ∨ checkAttributes a = .ok () := by
  simp only [checkAttributes]
  split_ifs
  · exact .inl (.error nofun)
  · exact .inl (.error nofun)
  · exact .inl (.error nofun)
  · exact .inr rfl

end Rules

namespace Service

variable {σ : Type} [Backend σ] {s s' : Service σ} {c : ConnectionId} {a : Account}

/-- The rules for a new character, in the order in which they are checked. -/
theorem checkCharacter_eq (s : Service σ) (a : Account) (name : String)
    (hairStyle hairColor gender : UInt8) (attributes : Attributes) :
    s.checkCharacter a name hairStyle hairColor gender attributes
      = if Rules.hasQuote name then .error .invalidArgument
        else
          match Rules.checkAppearance hairStyle hairColor gender with
          | .error status => .error status
          | .ok _ =>
            if !Rules.validCharacterName name then .error .invalidArgument
            else if Backend.characterNameExists s.desk.storage name then .error .nameTaken
            else if maxCharacters ≤ a.characters.length then .error .tooManyCharacters
            else Rules.checkAttributes attributes := by
  simp only [checkCharacter]
  rcases Rules.checkAppearance hairStyle hairColor gender with status | ⟨⟩ <;> split_ifs <;> rfl

/-- A new character is refused, or nobody has its name and there is room for it. -/
theorem checkCharacter_cases (s : Service σ) (a : Account) (name : String)
    (hairStyle hairColor gender : UInt8) (attributes : Attributes) :
    Refused (s.checkCharacter a name hairStyle hairColor gender attributes) ∨
      s.checkCharacter a name hairStyle hairColor gender attributes = .ok () ∧
        Backend.characterNameExists s.desk.storage name = false ∧
        a.characters.length < maxCharacters := by
  rw [checkCharacter_eq]
  rcases Rules.checkAppearance_cases hairStyle hairColor gender with ⟨status, hne, h⟩ | h <;>
    rw [h] <;> dsimp only
  · split_ifs
    · exact .inl (.error nofun)
    · exact .inl (.error hne)
  · split_ifs with hquote hname htaken hfull
    · exact .inl (.error nofun)
    · exact .inl (.error nofun)
    · exact .inl (.error nofun)
    · exact .inl (.error nofun)
    · rcases Rules.checkAttributes_cases attributes with hrefused | hok
      · exact .inl hrefused
      · exact .inr ⟨hok, Bool.eq_false_iff.mpr htaken, Nat.lt_of_not_le hfull⟩

/-! ### What is granted -/

/-- Queues messages for one connection. -/
def replyAll (s : Service σ) (c : ConnectionId) (ms : List Message) : Service σ :=
  { s with desk := s.desk.sendAll c ms }

/-- The list of the characters of a connection's account. -/
def listing (s : Service σ) (c : ConnectionId) : List Message :=
  match s.currentAccount? c with
  | none => []
  | some a => a.summaries.map .characterInfo

/-- The character of a connection's account in a slot, if there is one. -/
def listingAt (s : Service σ) (c : ConnectionId) (slot : UInt8) : List Message :=
  match (s.currentAccount? c).bind (·.characters[slot.toNat]?) with
  | none => []
  | some x => [.characterInfo (x.summary slot)]

/-- The record of the account that a connection is logged in as has been written back, changed. -/
structure Rewrites (s s' : Service σ) (c : ConnectionId) (a a' : Account) : Prop where
  current : s.currentAccount? c = some a
  persisted : Backend.persist s.desk.storage a' = .ok s'.desk.storage
  kept : s' = s.withStorage s'.desk.storage

/-- A record that is written back does not concern the sessions. -/
theorem Rewrites.sessions {a' : Account} (h : Rewrites s s' c a a') : s'.sessions = s.sessions := by
  rw [h.kept]
  rfl

/-- A record that is written back does not concern the settings. -/
theorem Rewrites.config {a' : Account} (h : Rewrites s s' c a a') : s'.config = s.config := by
  rw [h.kept]
  rfl

/-- A request is granted: what the service has found, what becomes of it, less what is queued, and
which messages the connection is sent. -/
inductive Granted (s : Service σ) (now : Moment) (draws : List Draw) (c : ConnectionId) :
    Request → Service σ → List Message → Prop where
  | login {clientVersion : UInt32} {username password : String} {a : Account}
      {sessions : Sessions HandoffPayload} {s' : Service σ} :
      s.config.minClientVersion ≤ clientVersion → Rules.hasQuote username = false →
      s.isFull = false →
      Backend.verify s.desk.storage username password = some a → a.isBanned = false →
      s.sessions.login c a.id = .ok sessions →
      s' = { s with
        sessions, desk := s.desk.tryPersist { a with lastLogin := some now.calendar } } →
      Granted s now draws c (.login clientVersion username password) s'
        (.loginResponse .ok :: s'.listing c)
  | logout {outcome : LogoutOutcome} {sessions : Sessions HandoffPayload} :
      s.sessions.logout c = .ok (outcome, sessions) →
      Granted s now draws c .logout { s with sessions } [.logoutResponse .ok]
  | register {clientVersion : UInt32} {username password email : String} {id : AccountId} {st : σ}
      {sessions : Sessions HandoffPayload} :
      s.config.minClientVersion ≤ clientVersion → Rules.validUsername username = true →
      Rules.validPassword password = true → Rules.validEmail email = true →
      Backend.findByName s.desk.storage username = none →
      Backend.emailExists s.desk.storage email = false →
      Backend.add s.desk.storage (Account.create username password email now.calendar)
        = .ok (id, st) →
      s.sessions.login c id = .ok sessions →
      Granted s now draws c (.register clientVersion username password email)
        { s.withStorage st with sessions } [.registerResponse .ok]
  | unregister {username password : String} {a r : Account} {st : σ} :
      s.isLoggedOut c = true → Rules.hasQuote username = false →
      Backend.verify s.desk.storage username password = some a →
      Backend.delete s.desk.storage a.id = .ok (r, st) →
      Granted s now draws c (.unregister username password) (s.withStorage st)
        [.unregisterResponse .ok]
  | emailChange {email : String} {a : Account} {s' : Service σ} :
      Rules.validEmail email = true → Backend.emailExists s.desk.storage email = false →
      Rewrites s s' c a (a.setEmail email) →
      Granted s now draws c (.emailChange email) s' [.emailChangeResponse .ok]
  | emailGet {a : Account} :
      s.currentAccount? c = some a →
      Granted s now draws c .emailGet s [.emailGetResponse .ok (some a.emailDigest)]
  | passwordChange {oldPassword newPassword : String} {a : Account} {s' : Service σ} :
      Rules.validPassword newPassword = true → a.checkPassword oldPassword = true →
      Rewrites s s' c a (a.setPassword newPassword) →
      Granted s now draws c (.passwordChange oldPassword newPassword) s'
        [.passwordChangeResponse .ok]
  | characterCreate {name : String} {hairStyle hairColor gender : UInt8} {attributes : Attributes}
      {a : Account} {s' : Service σ} :
      s.checkCharacter a name hairStyle hairColor gender attributes = .ok () →
      Backend.characterNameExists s.desk.storage name = false →
      a.characters.length < maxCharacters →
      Rewrites s s' c a { a with
        characters := a.characters ++
          [newCharacter s.config name hairStyle hairColor gender attributes] } →
      Granted s now draws c (.characterCreate name hairStyle hairColor gender attributes) s'
        (.characterCreateResponse .ok :: s'.listingAt c (UInt8.ofNat a.characters.length))
  | characterSelect {slot : UInt8} {chosen : Desk.Selection} {t : String} :
      s.desk.select s.sessions c slot = .ok chosen →
      s.sessions.rendezvous.freshToken? draws = some t →
      Granted s now draws c (.characterSelect slot)
        { s with
          sessions := s.sessions.leave now.steady t ⟨chosen.holder, some chosen.character.name⟩
          desk := { s.desk with announced := s.desk.announced ++ Desk.announcements chosen t } }
        [.characterSelectResponse .ok (some ⟨t, chosen.server, s.desk.chatServer⟩)]
  | characterDelete {slot : UInt8} {a : Account} {s' : Service σ} :
      slot.toNat < a.characters.length →
      Rewrites s s' c a { a with characters := a.characters.eraseIdx slot.toNat } →
      Granted s now draws c (.characterDelete slot) s' [.characterDeleteResponse .ok]

/-- A request is refused, and nothing happens but that the response is queued; or it is granted. -/
def Answered (s : Service σ) (now : Moment) (draws : List Draw) (c : ConnectionId) (r : Request) :
    Prop :=
  (∃ status, status ≠ .ok ∧ s.handle now draws c r = s.reply c (r.response status)) ∨
    ∃ s' ms, Granted s now draws c r s' ms ∧ s.handle now draws c r = s'.replyAll c ms

/-! ### What is queued behind a response -/

theorem reply_sendCharacters (s : Service σ) (c : ConnectionId) (m : Message) :
    (s.reply c m).sendCharacters c = s.replyAll c (m :: s.listing c) := by
  have hsame : (s.reply c m).currentAccount? c = s.currentAccount? c := rfl
  simp only [sendCharacters, hsame, listing]
  rcases s.currentAccount? c with - | a
  · rfl
  · show { s with desk := (s.desk.send c m).sendCharacters c a } = _
    rw [Desk.sendCharacters_eq, Desk.send_eq_sendAll, Desk.sendAll_sendAll]
    rfl

theorem reply_sendCharacter (s : Service σ) (c : ConnectionId) (m : Message) (slot : UInt8) :
    (s.reply c m).sendCharacter c slot = s.replyAll c (m :: s.listingAt c slot) := by
  have hsame : (s.reply c m).currentAccount? c = s.currentAccount? c := rfl
  simp only [sendCharacter, hsame, listingAt]
  rcases (s.currentAccount? c).bind (·.characters[slot.toNat]?) with - | x
  · rfl
  · show { s with desk := (s.desk.send c m).send c _ } = _
    rw [Desk.send_eq_sendAll, Desk.send_eq_sendAll, Desk.sendAll_sendAll]
    rfl

/-! ### Each kind of request -/

/-- A write is refused, or the store takes it. -/
theorem persist_cases (s : Service σ) (a : Account) :
    Refused (s.persist a) ∨
      ∃ st, Backend.persist s.desk.storage a = .ok st ∧ s.persist a = .ok (s.withStorage st) := by
  rcases h : Backend.persist s.desk.storage a with x | st
  · refine .inl ⟨.failure, nofun, ?_⟩
    simp only [persist, h]
  · refine .inr ⟨st, rfl, ?_⟩
    simp only [persist, h]

/-- The write of a changed record of the current account is refused, or the record is changed. -/
theorem rewrites_cases (hcurrent : s.currentAccount? c = some a) (a' : Account) :
    Refused (s.persist a') ∨ ∃ s', s.persist a' = .ok s' ∧ Rewrites s s' c a a' := by
  rcases s.persist_cases a' with hrefused | ⟨st, hpersist, hok⟩
  · exact .inl hrefused
  · exact .inr ⟨_, hok, hcurrent, hpersist, rfl⟩

section

variable (s : Service σ) (now : Moment) (draws : List Draw) (c : ConnectionId)

/-- An operation of which only the outcome is told answers its request. -/
theorem answered_conclude {r : Request} {result : Except Status (Service σ)}
    (h : Refused result ∨
      ∃ s', result = .ok s' ∧ Granted s now draws c r s' [r.response .ok])
    (hhandle : s.handle now draws c r = s.conclude c r.response result) :
    s.Answered now draws c r := by
  rcases h with ⟨status, hne, hrefused⟩ | ⟨s', hok, hgranted⟩
  · refine .inl ⟨status, hne, ?_⟩
    rw [hhandle, hrefused]
    rfl
  · refine .inr ⟨s', _, hgranted, ?_⟩
    rw [hhandle, hok]
    rfl

theorem answered_login (clientVersion : UInt32) (username password : String) :
    s.Answered now draws c (.login clientVersion username password) := by
  have h : Refused (s.login now c clientVersion username password) ∨
      ∃ s', s.login now c clientVersion username password = .ok s' ∧
        Granted s now draws c (.login clientVersion username password) s'
          (.loginResponse .ok :: s'.listing c) := by
    simp only [login]
    -- whoever gets past a rule keeps it; the first one that is broken refuses
    split_ifs with hout hversion hquote hfull
    · exact .inl (.error nofun)
    · exact .inl (.error nofun)
    · exact .inl (.error nofun)
    · exact .inl (.error nofun)
    · rcases hverify : Backend.verify s.desk.storage username password with - | a
      · exact .inl (.error nofun)
      · dsimp only
        split_ifs with hban
        · exact .inl (.error nofun)
        · rcases hlogin : s.sessions.login c a.id with x | sessions
          · exact .inl (.error nofun)
          · refine .inr ⟨_, rfl, .login (UInt32.not_lt.mp hversion) ?_ ?_ hverify ?_ hlogin rfl⟩
            · exact Bool.eq_false_iff.mpr hquote
            · exact Bool.eq_false_iff.mpr hfull
            · exact Bool.eq_false_iff.mpr hban
  rcases h with ⟨status, hne, hrefused⟩ | ⟨s', hok, hgranted⟩
  · refine .inl ⟨status, hne, ?_⟩
    simp only [handle, hrefused]
    rfl
  · refine .inr ⟨s', _, hgranted, ?_⟩
    simp only [handle, hok]
    exact s'.reply_sendCharacters c _

theorem answered_logout : s.Answered now draws c .logout := by
  refine answered_conclude s now draws c ?_ rfl
  rcases h : s.sessions.logout c with x | ⟨outcome, sessions⟩ <;> simp only [logout, h]
  · exact .inl (.error nofun)
  · exact .inr ⟨_, rfl, .logout h⟩

theorem answered_register (clientVersion : UInt32) (username password email : String) :
    s.Answered now draws c (.register clientVersion username password email) := by
  refine answered_conclude s now draws c ?_ rfl
  simp only [register]
  split_ifs with hout hversion hvalid hname hemail
  · exact .inl (.error nofun)
  · exact .inl (.error nofun)
  · exact .inl (.error nofun)
  · exact .inl (.error nofun)
  · exact .inl (.error nofun)
  · rcases hadd : Backend.add s.desk.storage (Account.create username password email now.calendar)
      with x | ⟨id, st⟩
    · exact .inl (.error nofun)
    · -- a session that is logged out can be logged in as the new account
      have hc : s.sessions.get? c = some .unauthenticated := by simpa [isLoggedOut] using hout
      have hlogin : s.sessions.login c id = .ok (s.sessions.set c (.authenticated id)) := by
        simp only [Sessions.login, hc]
      have hsame : (s.withStorage st).sessions = s.sessions := rfl
      dsimp only
      rw [hsame, hlogin]
      simp only [Bool.not_eq_true, Bool.not_eq_false', Bool.and_eq_true] at hvalid
      obtain ⟨⟨husername, hpassword⟩, hmail⟩ := hvalid
      refine .inr ⟨_, rfl, .register (UInt32.not_lt.mp hversion) husername hpassword hmail ?_ ?_ hadd
        hlogin⟩
      · simpa using hname
      · exact Bool.eq_false_iff.mpr hemail

theorem answered_unregister (username password : String) :
    s.Answered now draws c (.unregister username password) := by
  refine answered_conclude s now draws c ?_ rfl
  simp only [unregister]
  split_ifs with hout hquote
  · exact .inl (.error nofun)
  · exact .inl (.error nofun)
  · rcases hverify : Backend.verify s.desk.storage username password with - | a
    · exact .inl (.error nofun)
    · dsimp only
      rcases hdelete : Backend.delete s.desk.storage a.id with x | ⟨r, st⟩
      · exact .inl (.error nofun)
      · refine .inr ⟨_, rfl, .unregister ?_ (Bool.eq_false_iff.mpr hquote) hverify hdelete⟩
        simpa using hout

theorem answered_emailChange (email : String) :
    s.Answered now draws c (.emailChange email) := by
  refine answered_conclude s now draws c ?_ rfl
  rcases hcurrent : s.currentAccount? c with - | a <;> simp only [changeEmail, hcurrent]
  · exact .inl (.error nofun)
  · split_ifs with hvalid htaken
    · exact .inl (.error nofun)
    · exact .inl (.error nofun)
    · rcases rewrites_cases hcurrent (a.setEmail email) with hrefused | ⟨s', hok, hrewrites⟩
      · exact .inl hrefused
      · refine .inr ⟨s', hok, .emailChange ?_ (Bool.eq_false_iff.mpr htaken) hrewrites⟩
        simpa using hvalid

theorem answered_emailGet : s.Answered now draws c .emailGet := by
  rcases hcurrent : s.currentAccount? c with - | a
  · refine .inl ⟨.noLogin, nofun, ?_⟩
    simp only [handle, hcurrent]
    rfl
  · refine .inr ⟨s, _, .emailGet hcurrent, ?_⟩
    simp only [handle, hcurrent]
    rfl

theorem answered_passwordChange (oldPassword newPassword : String) :
    s.Answered now draws c (.passwordChange oldPassword newPassword) := by
  refine answered_conclude s now draws c ?_ rfl
  rcases hcurrent : s.currentAccount? c with - | a <;> simp only [changePassword, hcurrent]
  · exact .inl (.error nofun)
  · split_ifs with hvalid hold
    · exact .inl (.error nofun)
    · exact .inl (.error nofun)
    · rcases rewrites_cases hcurrent (a.setPassword newPassword) with
        hrefused | ⟨s', hok, hrewrites⟩
      · exact .inl hrefused
      · refine .inr ⟨s', hok, .passwordChange ?_ ?_ hrewrites⟩
        · simpa using hvalid
        · simpa using hold

theorem answered_characterCreate (name : String) (hairStyle hairColor gender : UInt8)
    (attributes : Attributes) :
    s.Answered now draws c (.characterCreate name hairStyle hairColor gender attributes) := by
  have hrefuse : Refused (s.createCharacter c name hairStyle hairColor gender attributes) →
      s.Answered now draws c (.characterCreate name hairStyle hairColor gender attributes) := by
    rintro ⟨status, hne, hrefused⟩
    refine .inl ⟨status, hne, ?_⟩
    simp only [handle, hrefused]
    rfl
  -- there is no account, a rule is broken, or the store does not take the record
  rcases hcurrent : s.currentAccount? c with - | a
  · refine hrefuse ⟨.noLogin, by decide, ?_⟩
    simp only [createCharacter, hcurrent]
  · rcases s.checkCharacter_cases a name hairStyle hairColor gender attributes with
      ⟨status, hne, hcheck⟩ | ⟨hcheck, hname, hroom⟩
    · refine hrefuse ⟨status, hne, ?_⟩
      simp only [createCharacter, hcurrent, hcheck]
    · rcases rewrites_cases hcurrent { a with
          characters := a.characters ++
            [newCharacter s.config name hairStyle hairColor gender attributes] } with
        ⟨status, hne, hpersist⟩ | ⟨s', hpersist, hrewrites⟩
      · refine hrefuse ⟨status, hne, ?_⟩
        simp only [createCharacter, hcurrent, hcheck, hpersist]
      · refine .inr ⟨s', _, .characterCreate hcheck hname hroom hrewrites, ?_⟩
        simp only [handle, createCharacter, hcurrent, hcheck, hpersist]
        exact s'.reply_sendCharacter c _ _

theorem answered_characterSelect (slot : UInt8) :
    s.Answered now draws c (.characterSelect slot) := by
  rcases Desk.issue_cases now.steady now.calendar draws s.desk s.sessions c slot with
    ⟨e, hrefused⟩ | ⟨chosen, t, hselect, hfresh, hok⟩
  · refine .inl ⟨e.status, e.status_ne_ok, ?_⟩
    simp only [handle, hrefused]
    rfl
  · refine .inr ⟨_, _, .characterSelect hselect hfresh, ?_⟩
    simp only [handle, hok]
    rfl

theorem answered_characterDelete (slot : UInt8) :
    s.Answered now draws c (.characterDelete slot) := by
  refine answered_conclude s now draws c ?_ rfl
  rcases hcurrent : s.currentAccount? c with - | a <;> simp only [deleteCharacter, hcurrent]
  · exact .inl (.error nofun)
  · split_ifs with hslot
    · exact .inl (.error nofun)
    · rcases rewrites_cases hcurrent
          { a with characters := a.characters.eraseIdx slot.toNat } with
        hrefused | ⟨s', hok, hrewrites⟩
      · exact .inl hrefused
      · exact .inr ⟨s', hok, .characterDelete (Nat.lt_of_not_le hslot) hrewrites⟩

/-- **A request other than a claim is refused or granted.** -/
theorem answered {r : Request} (hr : ∀ t, r ≠ .reconnect t) : s.Answered now draws c r := by
  cases r with
  | login clientVersion username password =>
    exact s.answered_login now draws c clientVersion username password
  | logout => exact s.answered_logout now draws c
  | reconnect t => exact absurd rfl (hr t)
  | register clientVersion username password email =>
    exact s.answered_register now draws c clientVersion username password email
  | unregister username password => exact s.answered_unregister now draws c username password
  | emailChange email => exact s.answered_emailChange now draws c email
  | emailGet => exact s.answered_emailGet now draws c
  | passwordChange oldPassword newPassword =>
    exact s.answered_passwordChange now draws c oldPassword newPassword
  | characterCreate name hairStyle hairColor gender attributes =>
    exact s.answered_characterCreate now draws c name hairStyle hairColor gender attributes
  | characterSelect slot => exact s.answered_characterSelect now draws c slot
  | characterDelete slot => exact s.answered_characterDelete now draws c slot

end

end Service

end Lobby
