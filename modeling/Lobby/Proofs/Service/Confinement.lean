/-
Lobby/Proofs/Service/Confinement.lean

Whoever stands for an account reads and changes the record of that account only.

Services are compared that differ in their stores and in nothing else.  They are `Twin` for an account if
they have the same record of it; whatever is kept of other accounts may be altogether different.  What a
session that is logged in as the account asks for keeps twins twins (`twin_request`), and so does a
meeting on a ticket of the account (`twin_claim`, `twin_announcement`): hence the answers, the sessions
and the record do not depend on other records.  The one thing that shows of other accounts is whether an
e-mail address or a name of a character is taken, so the stores have to `Agree` on that.

Main result: in every state, the events of a session and of a ticket are `Confined` to its account
(`confining`).
-/
import Lobby.Proofs.Service.Redemption
import Lobby.Proofs.Service.Replies

namespace Lobby

/-- Two stores have the same record of an account, and in both the same e-mail addresses and the same
names of characters are taken. -/
structure Storage.Agree (a : AccountId) (st st' : Storage) : Prop where
  record : st'.accounts.get? a = st.accounts.get? a
  email : ∀ address, st'.emailExists address = st.emailExists address
  character : ∀ name, st'.characterNameExists name = st.characterNameExists name

namespace Service

/-! ### Twins -/

/-- Two services differ in their stores only, and have the same record of an account. -/
def Twin (a : AccountId) (s s' : Service Storage) : Prop :=
  ∃ st : Storage, s' = s.withStorage st ∧ st.accounts.get? a = s.desk.storage.accounts.get? a

/-- An operation is refused in two services for the same reason, or leaves twins. -/
def TwinResult (a : AccountId) (result result' : Except Status (Service Storage)) : Prop :=
  (∃ status, result = .error status ∧ result' = .error status) ∨
    ∃ s s', result = .ok s ∧ result' = .ok s' ∧ Twin a s s'

variable {s s' : Service Storage} {a : AccountId} {c : ConnectionId} {st : Storage} {r : Account}

theorem TwinResult.refused (a : AccountId) (status : Status) :
    TwinResult a (.error status) (.error status) := .inl ⟨status, rfl, rfl⟩

theorem TwinResult.done (h : Twin a s s') : TwinResult a (.ok s) (.ok s') :=
  .inr ⟨s, s', rfl, rfl, h⟩

theorem Twin.replyAll (h : Twin a s s') (c : ConnectionId) (ms : List Message) :
    Twin a (s.replyAll c ms) (s'.replyAll c ms) := by
  obtain ⟨st, rfl, hrecord⟩ := h
  exact ⟨st, rfl, hrecord⟩

theorem Twin.reply (h : Twin a s s') (c : ConnectionId) (m : Message) :
    Twin a (s.reply c m) (s'.reply c m) := h.replyAll c [m]

theorem Twin.conclude (h : Twin a s s') (c : ConnectionId) (response : Status → Message)
    {result result' : Except Status (Service Storage)} (hresult : TwinResult a result result') :
    Twin a (s.conclude c response result) (s'.conclude c response result') := by
  rcases hresult with ⟨status, rfl, rfl⟩ | ⟨s₁, s₁', rfl, rfl, h⟩
  · exact h.reply c _
  · exact h.reply c _

/-- Twins are alike for whoever is not told of the store. -/
theorem Twin.same (h : Twin a s s') :
    s'.sessions = s.sessions ∧ s'.desk.outbox = s.desk.outbox ∧
      s'.desk.announced = s.desk.announced ∧
      s'.desk.storage.accounts.get? a = s.desk.storage.accounts.get? a := by
  obtain ⟨st, rfl, hrecord⟩ := h
  exact ⟨rfl, rfl, rfl, hrecord⟩

/-- Twins have the same account for a session that is logged in as it. -/
theorem Twin.currentAccount? (h : Twin a s s') (hc : s.sessions.accountOf? c = some a) :
    s'.currentAccount? c = s.currentAccount? c := by
  obtain ⟨st, rfl, hrecord⟩ := h
  show (s.sessions.accountOf? c).bind _ = (s.sessions.accountOf? c).bind _
  rw [hc]
  exact hrecord

/-- Twins take the record of the account or refuse it. -/
theorem Twin.persist (h : Twin r.id s s') : TwinResult r.id (s.persist r) (s'.persist r) := by
  obtain ⟨st, rfl, hrecord⟩ := h
  have hours : Backend.persist s.desk.storage r = s.desk.storage.persist r := rfl
  have htheirs : Backend.persist (s.withStorage st).desk.storage r = st.persist r := rfl
  simp only [Service.persist, hours, htheirs, Storage.persist, hrecord]
  -- the record is found in both stores or in neither
  rcases s.desk.storage.accounts.get? r.id with - | old
  · exact .refused _ .failure
  · refine .done ⟨_, rfl, ?_⟩
    simp [withStorage]

theorem sessions_of_persist (h : s.persist r = .ok s') : s'.sessions = s.sessions := by
  rcases s.persist_cases r with ⟨status, -, hrefused⟩ | ⟨st, -, hok⟩
  · rw [hrefused] at h
    cases h
  · rw [hok] at h
    cases h
    rfl

/-- Twins list the same character of the account. -/
theorem Twin.sendCharacter (h : Twin a s s') (hc : s.sessions.accountOf? c = some a)
    (slot : UInt8) : Twin a (s.sendCharacter c slot) (s'.sendCharacter c slot) := by
  simp only [Service.sendCharacter, h.currentAccount? hc]
  split
  · exact h
  · exact h.reply c _

/-! ### Requests of a session -/

theorem not_loggedOut (hc : s.sessions.get? c = some (.authenticated a)) :
    s.isLoggedOut c = false := by
  simp [isLoggedOut, hc]

section

variable (hst : s.desk.storage.Sound) (hc : s.sessions.get? c = some (.authenticated a))
  (hagree : s.desk.storage.Agree a st)

include hagree in
theorem twin_of_agree : Twin a s (s.withStorage st) := ⟨st, rfl, hagree.record⟩

include hst hc hagree

/-- An operation on the current account comes to the same in twins if it does so for a record of the
account. -/
theorem twin_of_current (op : Service Storage → Except Status (Service Storage))
    {change : Service Storage → Account → Except Status (Service Storage)}
    (hop : ∀ s, op s = match s.currentAccount? c with
      | none => .error .noLogin
      | some r => change s r)
    (hchange : ∀ r, r.id = a → TwinResult a (change s r) (change (s.withStorage st) r)) :
    TwinResult a (op s) (op (s.withStorage st)) := by
  rw [hop, hop, (twin_of_agree hagree).currentAccount? (Sessions.accountOf?_eq_some_iff.mpr hc),
    currentAccount?_eq hc]
  rcases hr : s.desk.storage.accounts.get? a with - | r
  · exact .refused _ .noLogin
  · exact hchange r (hst.own a r hr)

theorem twin_changeEmail (email : String) :
    TwinResult a (s.changeEmail c email) ((s.withStorage st).changeEmail c email) := by
  refine twin_of_current hst hc hagree (·.changeEmail c email) (fun _ => rfl) ?_
  rintro r rfl
  have htaken : Backend.emailExists (s.withStorage st).desk.storage email
      = Backend.emailExists s.desk.storage email := hagree.email email
  rw [htaken]
  split_ifs
  · exact .refused _ _
  · exact .refused _ _
  · exact Twin.persist (r := r.setEmail email) (twin_of_agree hagree)

theorem twin_changePassword (oldPassword newPassword : String) :
    TwinResult a (s.changePassword c oldPassword newPassword)
      ((s.withStorage st).changePassword c oldPassword newPassword) := by
  refine twin_of_current hst hc hagree (·.changePassword c oldPassword newPassword) (fun _ => rfl)
    ?_
  rintro r rfl
  split_ifs
  · exact .refused _ _
  · exact .refused _ _
  · exact Twin.persist (r := r.setPassword newPassword) (twin_of_agree hagree)

theorem twin_deleteCharacter (slot : UInt8) :
    TwinResult a (s.deleteCharacter c slot) ((s.withStorage st).deleteCharacter c slot) := by
  refine twin_of_current hst hc hagree (·.deleteCharacter c slot) (fun _ => rfl) ?_
  rintro r rfl
  split_ifs
  · exact .refused _ _
  · exact Twin.persist (r := { r with characters := r.characters.eraseIdx slot.toNat })
      (twin_of_agree hagree)

theorem twin_characterCreate (now : Moment) (draws : List Draw) (name : String)
    (hairStyle hairColor gender : UInt8) (attributes : Attributes) :
    Twin a (s.handle now draws c (.characterCreate name hairStyle hairColor gender attributes))
      ((s.withStorage st).handle now draws c
        (.characterCreate name hairStyle hairColor gender attributes)) := by
  have htwin := twin_of_agree hagree
  have haccount := Sessions.accountOf?_eq_some_iff.mpr hc
  have hours := currentAccount?_eq hc
  have htheirs := htwin.currentAccount? haccount
  rw [hours] at htheirs
  have hsame : ∀ r, (s.withStorage st).checkCharacter r name hairStyle hairColor gender attributes
      = s.checkCharacter r name hairStyle hairColor gender attributes := by
    intro r
    have htaken : Backend.characterNameExists (s.withStorage st).desk.storage name
        = Backend.characterNameExists s.desk.storage name := hagree.character name
    rw [checkCharacter_eq, checkCharacter_eq, htaken]
  have hconfig : (s.withStorage st).config = s.config := rfl
  -- there is no account, a rule is broken, or the store is asked to take the record
  rcases hr : s.desk.storage.accounts.get? a with - | r <;> rw [hr] at hours htheirs
  · simp only [handle, createCharacter, hours, htheirs]
    exact htwin.reply c _
  · obtain rfl : r.id = a := hst.own a r hr
    rcases hcheck : s.checkCharacter r name hairStyle hairColor gender attributes with status | ⟨⟩
    · simp only [handle, createCharacter, hours, htheirs, hsame, hcheck]
      exact htwin.reply c _
    · rcases Twin.persist (r := { r with characters := r.characters ++
          [newCharacter s.config name hairStyle hairColor gender attributes] }) htwin with
        ⟨status, hrefused, hrefused'⟩ | ⟨s₁, s₁', hok, hok', hdone⟩
      · simp only [handle, createCharacter, hours, htheirs, hsame, hcheck, hconfig, hrefused,
          hrefused']
        exact htwin.reply c _
      · simp only [handle, createCharacter, hours, htheirs, hsame, hcheck, hconfig, hok, hok']
        have haccount₁ : s₁.sessions.accountOf? c = some r.id := by
          rw [sessions_of_persist hok]
          exact haccount
        exact (hdone.reply c _).sendCharacter haccount₁ _

omit hst in
theorem twin_emailGet (now : Moment) (draws : List Draw) :
    Twin a (s.handle now draws c .emailGet) ((s.withStorage st).handle now draws c .emailGet) := by
  have htwin := twin_of_agree hagree
  simp only [handle, htwin.currentAccount? (Sessions.accountOf?_eq_some_iff.mpr hc)]
  rcases s.currentAccount? c with - | r
  · exact htwin.reply c _
  · exact htwin.reply c _

omit hst in
/-- A ticket is issued for the account of the session, whatever else is stored. -/
theorem twin_characterSelect (now : Moment) (draws : List Draw) (slot : UInt8) :
    Twin a (s.handle now draws c (.characterSelect slot))
      ((s.withStorage st).handle now draws c (.characterSelect slot)) := by
  have htwin := twin_of_agree hagree
  have haccount := Sessions.accountOf?_eq_some_iff.mpr hc
  have hselect : (s.withStorage st).desk.select s.sessions c slot
      = s.desk.select s.sessions c slot := by
    have hours : Backend.findById s.desk.storage a = s.desk.storage.accounts.get? a := rfl
    have htheirs : Backend.findById (s.withStorage st).desk.storage a = st.accounts.get? a := rfl
    simp only [Desk.select, haccount, hours, htheirs, hagree.record]
    rfl
  have hsessions : (s.withStorage st).sessions = s.sessions := rfl
  simp only [handle, Desk.issue, hsessions, hselect]
  rcases s.desk.select s.sessions c slot with e | chosen
  · exact htwin.reply c _
  · rcases hfresh : s.sessions.rendezvous.freshToken? draws with - | t
    · exact htwin.reply c _
    · -- nobody waits on a fresh token, so that the desk is not asked
      have hfree : s.sessions.rendezvous.claimant? t = none :=
        Rendezvous.claimant?_eq_none_of_get? (Rendezvous.freshToken?_eq_some hfresh).1
      simp only [Sessions.expectPayload_of_no_claimant hfree]
      exact ⟨st, rfl, hagree.record⟩

/-- **What a session asks for keeps twins twins.** -/
theorem twin_request (now : Moment) (draws : List Draw) (x : Request) :
    Twin a (s.handle now draws c x) ((s.withStorage st).handle now draws c x) := by
  have htwin := twin_of_agree hagree
  have hours : s.isLoggedOut c = false := not_loggedOut hc
  have htheirs : (s.withStorage st).isLoggedOut c = false := hours
  cases x with
  | login clientVersion username password =>
    -- whoever is logged in already is refused before anything is looked up
    simp only [handle, login, hours, htheirs, Bool.not_false, if_true]
    exact htwin.reply c _
  | logout =>
    refine htwin.conclude c _ ?_
    have hsame : (s.withStorage st).sessions = s.sessions := rfl
    simp only [logout, hsame]
    rcases s.sessions.logout c with x | ⟨outcome, sessions⟩
    · exact .refused _ _
    · exact .done ⟨st, rfl, hagree.record⟩
  | reconnect t =>
    have hin : s.sessions.get? c ≠ some .unauthenticated := by simp [hc]
    show Twin a (s.step (.request now draws c (.reconnect t)))
      ((s.withStorage st).step (.request now draws c (.reconnect t)))
    rw [step_claim_of_not_loggedOut hin, step_claim_of_not_loggedOut (s := s.withStorage st) hin]
    exact htwin
  | register clientVersion username password email =>
    refine htwin.conclude c _ ?_
    simp only [register, hours, htheirs, Bool.not_false, if_true]
    exact .refused _ _
  | unregister username password =>
    refine htwin.conclude c _ ?_
    simp only [unregister, hours, htheirs, Bool.not_false, if_true]
    exact .refused _ _
  | emailChange email => exact htwin.conclude c _ (twin_changeEmail hst hc hagree email)
  | emailGet => exact twin_emailGet hc hagree now draws
  | passwordChange oldPassword newPassword =>
    exact htwin.conclude c _ (twin_changePassword hst hc hagree oldPassword newPassword)
  | characterCreate name hairStyle hairColor gender attributes =>
    exact twin_characterCreate hst hc hagree now draws name hairStyle hairColor gender attributes
  | characterSelect slot => exact twin_characterSelect hc hagree now draws slot
  | characterDelete slot => exact htwin.conclude c _ (twin_deleteCharacter hst hc hagree slot)

end

/-! ### Meetings on a ticket -/

/-- The desk answers for a payload in the same way wherever the record of its account is the same, and
writes to that record only. -/
theorem twin_claimMatched (d : Desk Storage) (p : HandoffPayload)
    (hrecord : st.accounts.get? p.account = d.storage.accounts.get? p.account) (on : Timestamp)
    (c : ConnectionId) :
    ∃ st' : Storage,
      Desk.claimMatched on c p { d with storage := st }
        = ((Desk.claimMatched on c p d).1,
            { (Desk.claimMatched on c p d).2 with storage := st' }) ∧
      st'.accounts.get? p.account
        = (Desk.claimMatched on c p d).2.storage.accounts.get? p.account := by
  have hours : d.admitted p = match d.storage.accounts.get? p.account with
      | none => .error .failure
      | some r => if r.isBanned then .error .banned else .ok r := rfl
  have htheirs : ({ d with storage := st } : Desk Storage).admitted p = d.admitted p := by
    rw [hours, ← hrecord]
    rfl
  -- whoever is refused leaves both stores as they are; else the record goes into both
  simp only [Desk.claimMatched, htheirs]
  rcases d.admitted p with status | r
  · exact ⟨st, rfl, hrecord⟩
  · simp only [Desk.sendCharacters_eq, Desk.tryPersist_eq]
    refine ⟨_, rfl, ?_⟩
    show (Storage.accounts ((Edit.persist _).apply st)).get? p.account
      = (Storage.accounts ((Edit.persist _).apply d.storage)).get? p.account
    rw [Storage.get?_apply_persist, Storage.get?_apply_persist, hrecord]

section

variable (hs : s.sessions.Lockstep) {t : String}

include hs

/-- A claim on a token on which a payload waits keeps twins for the account of the payload twins. -/
theorem twin_claim (hc : s.sessions.get? c = some .unauthenticated) {p : HandoffPayload}
    (hp : s.sessions.rendezvous.payload? t = some p)
    (hrecord : st.accounts.get? p.account = s.desk.storage.accounts.get? p.account) (now : Moment)
    (draws : List Draw) :
    Twin p.account (s.step (.request now draws c (.reconnect t)))
      ((s.withStorage st).step (.request now draws c (.reconnect t))) := by
  obtain ⟨st', hanswer, hrecord'⟩ := twin_claimMatched s.desk p hrecord now.calendar c
  have htheirs := step_claim_of_payload (s := s.withStorage st) hs hc hp now draws
  have hdesk : (s.withStorage st).desk = { s.desk with storage := st } := rfl
  rw [hdesk, hanswer] at htheirs
  rw [step_claim_of_payload hs hc hp now draws, htheirs]
  exact ⟨st', rfl, hrecord'⟩

/-- An announcement keeps twins for the account that it names twins. -/
theorem twin_announcement (hrecord : st.accounts.get? a = s.desk.storage.accounts.get? a)
    (now : Moment) (t : String) :
    Twin a (s.step (.announce now t a)) ((s.withStorage st).step (.announce now t a)) := by
  rcases ht : s.sessions.rendezvous.claimant? t with - | c
  · rw [step_announce_of_no_claimant ht now a,
      step_announce_of_no_claimant (s := s.withStorage st) ht now a]
    exact ⟨st, rfl, hrecord⟩
  · obtain ⟨st', hanswer, hrecord'⟩ :=
      twin_claimMatched s.desk (⟨a, none⟩ : HandoffPayload) hrecord now.calendar c
    have htheirs := step_announce_of_claimant (s := s.withStorage st) hs ht now a
    have hdesk : (s.withStorage st).desk = { s.desk with storage := st } := rfl
    rw [hdesk, hanswer] at htheirs
    rw [step_announce_of_claimant hs ht now a, htheirs]
    exact ⟨st', rfl, hrecord'⟩

end

/-! ### Other records -/

/-- Two stores have the same records, but for one account. -/
def KeepsOthers (a : AccountId) (st st' : Storage) : Prop :=
  ∀ b, b ≠ a → st'.accounts.get? b = st.accounts.get? b

theorem KeepsOthers.refl (a : AccountId) (st : Storage) : KeepsOthers a st st := fun _ _ => rfl

theorem keepsOthers_persist (st : Storage) (r : Account) :
    KeepsOthers r.id st ((Edit.persist r).apply st) := by
  intro b hb
  rw [Storage.get?_apply_persist, if_neg (Ne.symm hb)]

/-- A session writes to the record that it is logged in as. -/
theorem keepsOthers_rewrites (hst : s.desk.storage.Sound)
    (hc : s.sessions.get? c = some (.authenticated a)) {r' : Account} (h : Rewrites s s' c r r')
    (hid : r'.id = r.id) : KeepsOthers a s.desk.storage s'.desk.storage := by
  have hr : s.desk.storage.accounts.get? a = some r := (currentAccount?_eq hc).symm.trans h.current
  -- the record stands under its own number, which a change of it keeps
  obtain rfl : r'.id = a := hid.trans (hst.own a r hr)
  have happly : (Edit.persist r').apply s.desk.storage = s'.desk.storage := by
    have hattempt : (Edit.persist r').attempt s.desk.storage = .ok s'.desk.storage := h.persisted
    simp only [Edit.apply, hattempt]
  rw [← happly]
  exact keepsOthers_persist s.desk.storage r'

theorem keepsOthers_request (hst : s.desk.storage.Sound)
    (hc : s.sessions.get? c = some (.authenticated a)) (now : Moment) (draws : List Draw)
    (x : Request) :
    KeepsOthers a s.desk.storage (s.step (.request now draws c x)).desk.storage := by
  by_cases hx : ∃ t, x = .reconnect t
  · obtain ⟨t, rfl⟩ := hx
    rw [step_claim_of_not_loggedOut (by simp [hc]) now draws t]
    exact .refl a _
  · rcases s.step_request_cases now draws c fun t ht => hx ⟨t, ht⟩ with
      ⟨status, -, hstep, -⟩ | ⟨s', ms, hgranted, hstep, -⟩ <;> rw [hstep]
    · exact .refl a _
    · show KeepsOthers a s.desk.storage s'.desk.storage
      cases hgranted with
      | login _ _ _ _ _ hlogin _ =>
        -- whoever logs in, registers or unregisters is logged out
        rw [(Sessions.login_eq hlogin).1] at hc
        cases hc
      | register _ _ _ _ _ _ _ hlogin =>
        rw [(Sessions.login_eq hlogin).1] at hc
        cases hc
      | unregister hout _ _ _ =>
        rw [not_loggedOut hc] at hout
        cases hout
      | logout _ => exact .refl a _
      | emailGet _ => exact .refl a _
      | characterSelect _ _ => exact .refl a _
      | emailChange _ _ h => exact keepsOthers_rewrites hst hc h rfl
      | passwordChange _ _ h => exact keepsOthers_rewrites hst hc h rfl
      | characterCreate _ _ _ h => exact keepsOthers_rewrites hst hc h rfl
      | characterDelete _ h => exact keepsOthers_rewrites hst hc h rfl

/-- A meeting writes to the record of the account that the payload names. -/
theorem keepsOthers_claimMatched {d : Desk Storage} (hst : d.storage.Sound) (p : HandoffPayload)
    (on : Timestamp) (c : ConnectionId) :
    KeepsOthers p.account d.storage (Desk.claimMatched on c p d).2.storage := by
  rcases Desk.claimMatched_cases on c p d with ⟨-, heq⟩ | ⟨r, -, -, heq⟩ | ⟨r, hr, -, heq⟩ <;> rw [heq]
  · exact .refl _ _
  · exact .refl _ _
  · rw [← hst.own p.account r hr, Desk.tryPersist_eq]
    exact keepsOthers_persist d.storage { r with lastLogin := some on }

/-! ### Confinement -/

/-- An event is confined to an account: it changes no other record; and if other accounts were stored
instead, with the same record of this one and the same e-mail addresses and names of characters taken,
then the same would be queued and announced, and the sessions and the record would be the same. -/
structure Confined (s : Service Storage) (e : Event) (a : AccountId) : Prop where
  writes : KeepsOthers a s.desk.storage (s.step e).desk.storage
  reads : ∀ st, s.desk.storage.Agree a st →
    (s.withStorage st).queued e = s.queued e ∧
      ((s.withStorage st).step e).sessions = (s.step e).sessions ∧
      ((s.withStorage st).step e).desk.announced = (s.step e).desk.announced ∧
      ((s.withStorage st).step e).desk.storage.accounts.get? a
        = (s.step e).desk.storage.accounts.get? a

theorem Confined.of_twins {e : Event}
    (hwrites : KeepsOthers a s.desk.storage (s.step e).desk.storage)
    (htwins : ∀ st, s.desk.storage.Agree a st → Twin a (s.step e) ((s.withStorage st).step e)) :
    s.Confined e a := by
  refine ⟨hwrites, fun st hagree => ?_⟩
  obtain ⟨hsessions, houtbox, hannounced, hrecord⟩ := (htwins st hagree).same
  refine ⟨?_, hsessions, hannounced, hrecord⟩
  show ((s.withStorage st).step e).desk.outbox.drop _ = (s.step e).desk.outbox.drop _
  rw [houtbox]
  rfl

/-- Whatever a session that is logged in asks for is confined to its account, a claim that meets a
payload is confined to the account of the payload, and an announcement to the account that it names. -/
structure Confining (s : Service Storage) : Prop where
  session : ∀ c a, s.sessions.get? c = some (.authenticated a) →
    ∀ now draws x, s.Confined (.request now draws c x) a
  ticket : ∀ c t p, s.sessions.get? c = some .unauthenticated →
    s.sessions.rendezvous.payload? t = some p →
    ∀ now draws, s.Confined (.request now draws c (.reconnect t)) p.account
  announcement : ∀ now t a, s.Confined (.announce now t a) a

/-- **Every state confines sessions and tickets to their accounts.** -/
theorem confining (hs : Reachable s) : s.Confining := by
  have hlock := hs.lockstep
  have hst : s.desk.storage.Sound := hs.sound
  refine ⟨fun c a hc now draws x => ?_, fun c t p hc hp now draws => ?_, fun now t a => ?_⟩
  · exact .of_twins (keepsOthers_request hst hc now draws x)
      fun st hagree => twin_request hst hc hagree now draws x
  · refine .of_twins ?_ fun st hagree => twin_claim hlock hc hp hagree.record now draws
    rw [(claim_of_payload hlock hc hp now draws).1]
    exact keepsOthers_claimMatched hst p now.calendar c
  · refine .of_twins ?_ fun st hagree => twin_announcement hlock hagree.record now t
    rcases announce_cases hlock now t a with ⟨-, heq⟩ | ⟨c, -, heq⟩ <;> rw [heq]
    · exact .refl a _
    · exact keepsOthers_claimMatched hst ⟨a, none⟩ now.calendar c

end Service

end Lobby
