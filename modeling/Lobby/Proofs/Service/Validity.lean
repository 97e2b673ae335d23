/-
Lobby/Proofs/Service/Validity.lean

Only what keeps the rules comes in.

The rules are checked in the requests, before a copy of a record is changed and written back.  So what a
response acknowledges has been vetted (`vetted_changes`), and as nothing else is written, every record is
made of what was there at the start and of what has been vetted since (`Account.Vetted`): for every
kind of change there is one case of `Account.Vetted.apply`, one write keeps the whole store like this
(`Storage.Written.vetted`), and a run does (`vetted_run`).

Main result: `only_the_valid_comes_in`.
-/
import Lobby.Proofs.Service.Capacity
import Lobby.Proofs.Service.Creation
import Lobby.Proofs.Service.Journal

namespace Lobby

/-! ### Records -/

/-- What may be changed in a record, by the rules. -/
def Amendment.Vetted (config : AccountConfig) (r : Account) : Amendment → Prop
  | email address => Rules.validEmail address = true
  | password secret => Rules.Fits 4 25 secret
  | gain x => x.Novice config ∧ r.characters.length < maxCharacters
  | lose _ => True
  | login _ => True

/-- What may be changed in a store, by the rules. -/
def Change.Vetted (config : AccountConfig) (st : Storage) : Change → Prop
  | registered _ name password email _ =>
    Rules.Fits 4 16 name ∧ Rules.Fits 4 25 password ∧ Rules.validEmail email = true
  | unregistered _ => True
  | amended a x => ∀ r, st.accounts.get? a = some r → x.Vetted config r

/-- A record holds only what its account had at the start, if there was one, and what keeps the rules:
new characters come behind those of the old ones that are left, a new account has a valid name, and the
password and the e-mail address are the old ones or valid ones. -/
structure Account.Vetted (config : AccountConfig) (start : Option Account) (r : Account) : Prop where
  room : r.characters.length ≤ maxCharacters
  characters : ∃ left gained, r.characters = left ++ gained ∧
    left.Sublist (start.elim [] Account.characters) ∧ ∀ x ∈ gained, x.Novice config
  name : (∃ old, start = some old ∧ r.name = old.name) ∨ start = none ∧ Rules.Fits 4 16 r.name
  password : (∃ old, start = some old ∧ r.passwordDigest = old.passwordDigest) ∨
    ∃ password, Rules.Fits 4 25 password ∧ r.passwordDigest = digest password
  email : (∃ old, start = some old ∧ r.emailDigest = old.emailDigest) ∨
    ∃ email, Rules.validEmail email = true ∧ r.emailDigest = digest email

namespace Account

variable {config : AccountConfig} {start : Option Account} {r : Account}

/-- A record as it is at the start. -/
theorem vetted_of_start (h : r.characters.length ≤ maxCharacters) : r.Vetted config (some r) where
  room := h
  characters := ⟨r.characters, [], (List.append_nil _).symm, .refl _, List.forall_mem_nil _⟩
  name := .inl ⟨r, rfl, rfl⟩
  password := .inl ⟨r, rfl, rfl⟩
  email := .inl ⟨r, rfl, rfl⟩

/-- The record of a new account. -/
theorem vetted_create {name password email : String} (hname : Rules.Fits 4 16 name)
    (hpassword : Rules.Fits 4 25 password) (hemail : Rules.validEmail email = true) (on : Timestamp)
    (id : AccountId) : Vetted config none { create name password email on with id } where
  room := Nat.zero_le _
  characters := ⟨[], [], rfl, .slnil, List.forall_mem_nil _⟩
  name := .inr ⟨rfl, hname⟩
  password := .inr ⟨password, hpassword, rfl⟩
  email := .inr ⟨email, hemail, rfl⟩

/-- A character that goes is one of those that are left from the start, or one of those that have come
in. -/
theorem exists_eraseIdx_eq {left gained : List Character} {old : List Character}
    (hleft : left.Sublist old) (hgained : ∀ x ∈ gained, x.Novice config) (slot : Nat) :
    ∃ left' gained', (left ++ gained).eraseIdx slot = left' ++ gained' ∧ left'.Sublist old ∧
      ∀ x ∈ gained', x.Novice config := by
  by_cases hslot : slot < left.length
  · refine ⟨left.eraseIdx slot, gained, List.eraseIdx_append_of_lt_length hslot gained, ?_, hgained⟩
    exact (List.eraseIdx_sublist ..).trans hleft
  · refine ⟨left, gained.eraseIdx (slot - left.length),
      List.eraseIdx_append_of_length_le (Nat.le_of_not_lt hslot) gained, hleft, ?_⟩
    exact fun x hx => hgained x (List.mem_of_mem_eraseIdx hx)

/-- **A vetted change leaves a record vetted.** -/
theorem Vetted.apply (h : r.Vetted config start) {x : Amendment} (hx : x.Vetted config r) :
    (x.apply r).Vetted config start := by
  cases x with
  | email address => exact { h with email := .inr ⟨address, hx, rfl⟩ }
  | password secret => exact { h with password := .inr ⟨secret, hx, rfl⟩ }
  | gain x =>
    obtain ⟨hnovice, hroom⟩ := hx
    obtain ⟨left, gained, hsplit, hleft, hgained⟩ := h.characters
    refine { h with room := ?_, characters := ⟨left, gained ++ [x], ?_, hleft, ?_⟩ }
    · show (r.characters ++ [x]).length ≤ maxCharacters
      rw [List.length_append]
      exact hroom
    · show r.characters ++ [x] = left ++ (gained ++ [x])
      rw [hsplit, List.append_assoc]
    · intro y hy
      rcases List.mem_append.mp hy with hy | hy
      · exact hgained y hy
      · rw [List.mem_singleton.mp hy]
        exact hnovice
  | lose slot =>
    obtain ⟨left, gained, hsplit, hleft, hgained⟩ := h.characters
    refine { h with
      room := Nat.le_trans (List.eraseIdx_sublist ..).length_le h.room, characters := ?_ }
    show ∃ left' gained', r.characters.eraseIdx slot = left' ++ gained' ∧ _
    rw [hsplit]
    exact exists_eraseIdx_eq hleft hgained slot
  | login on => exact { h with }

end Account

/-! ### Stores -/

namespace Storage

variable {config : AccountConfig} {start st st' : Storage}

/-- All records are vetted, and no number has been taken back. -/
structure Vetted (config : AccountConfig) (start st : Storage) : Prop where
  later : start.lastId ≤ st.lastId
  records : ∀ a r, st.accounts.get? a = some r → r.Vetted config (start.accounts.get? a)

/-- A store as it is at the start. -/
theorem vetted_start
    (h : ∀ a r, start.accounts.get? a = some r → r.characters.length ≤ maxCharacters) :
    start.Vetted config start := by
  refine ⟨Nat.le_refl _, ?_⟩
  intro a r hr
  rw [hr]
  exact Account.vetted_of_start (h a r hr)

/-- **A write of what is vetted leaves a store vetted.** -/
theorem Written.vetted {changes : List Change} (h : Written st st' changes)
    (hchanges : ∀ x ∈ changes, x.Vetted config st) (hstart : start.Sound)
    (hst : start.Vetted config st) : start.Vetted config st' := by
  cases h with
  | kept => exact hst
  | registered _ hadd =>
    obtain ⟨-, rfl, rfl⟩ := add_eq hadd
    obtain ⟨hname, hpassword, hemail⟩ := hchanges _ (List.mem_singleton_self _)
    refine ⟨Nat.le_succ_of_le hst.later, ?_⟩
    intro a r hr
    rw [KeyedList.get?_insert] at hr
    split at hr
    · -- the number is above all that were given at the start
      rename_i ha
      subst ha
      cases hr
      have hnew : start.accounts.get? ⟨st.lastId + 1⟩ = none := by
        rcases hold : start.accounts.get? ⟨st.lastId + 1⟩ with - | old
        · rfl
        · have hgiven := Nat.le_trans (hstart.given _ old hold) hst.later
          exact absurd hgiven (Nat.not_succ_le_self _)
      rw [hnew]
      exact Account.vetted_create hname hpassword hemail ..
    · exact hst.records a r hr
  | unregistered _ hdelete =>
    obtain ⟨-, rfl⟩ := delete_eq hdelete
    refine ⟨hst.later, ?_⟩
    intro a r hr
    rw [KeyedList.get?_erase] at hr
    split at hr
    · cases hr
    · exact hst.records a r hr
  | @amended _ r x hget _ hpersist =>
    obtain ⟨-, rfl⟩ := persist_eq hpersist
    refine ⟨hst.later, ?_⟩
    intro a r' hr'
    rw [KeyedList.get?_insert, x.id_apply] at hr'
    split at hr'
    · rename_i ha
      subst ha
      cases hr'
      exact (hst.records _ r hget).apply (hchanges _ (List.mem_singleton_self _) r hget)
    · exact hst.records a r' hr'

end Storage

namespace Service

variable {s s' : Service Storage} {now : Moment} {draws : List Draw} {c : ConnectionId}

/-! ### What is acknowledged -/

/-- What is granted has been vetted. -/
theorem Granted.vetted (hst : s.desk.storage.Sound) {r : Request} {ms : List Message}
    (h : Granted s now draws c r s' ms) {x : Change}
    (hx : r.change? s.config now (s.sessions.accountOf? c) (s'.sessions.accountOf? c) = some x) :
    x.Vetted s.config s.desk.storage := by
  cases h with
  | login =>
    obtain ⟨a, -, rfl⟩ := Option.map_eq_some_iff.mp hx
    exact fun r _ => trivial
  | register _ husername hpassword hemail =>
    obtain ⟨a, -, rfl⟩ := Option.map_eq_some_iff.mp hx
    exact ⟨Rules.validUsername_iff.mp husername, Rules.validPassword_iff.mp hpassword, hemail⟩
  | unregister =>
    cases hx
    exact trivial
  | emailChange hemail =>
    obtain ⟨a, -, rfl⟩ := Option.map_eq_some_iff.mp hx
    exact fun r _ => hemail
  | passwordChange hpassword =>
    obtain ⟨a, -, rfl⟩ := Option.map_eq_some_iff.mp hx
    exact fun r _ => Rules.validPassword_iff.mp hpassword
  | characterCreate hcheck _ hroom hrewrites =>
    -- the room was found in the record as it is stored now
    obtain ⟨a, ha, rfl⟩ := Option.map_eq_some_iff.mp hx
    obtain ⟨hsession, hget, -, -⟩ := hrewrites.stored hst
    cases hsession.symm.trans ha
    intro r hr
    cases hget.symm.trans hr
    exact ⟨novice_of_checkCharacter hcheck, hroom⟩
  | characterDelete =>
    obtain ⟨a, -, rfl⟩ := Option.map_eq_some_iff.mp hx
    exact fun r _ => trivial
  | _ => cases hx

/-- What is acknowledged in an event is what the event stands for. -/
theorem change?_of_mem_changes {e : Event} {x : Change} (hx : x ∈ s.changes e) :
    ∃ c, s.change? e c = some x := by
  obtain ⟨d, -, hd⟩ := List.mem_filterMap.mp hx
  rcases d with ⟨c, m⟩ | ⟨c, reason⟩
  · simp only [acknowledged?] at hd
    split at hd
    · exact ⟨c, hd⟩
    · cases hd
  · cases hd

/-- **What is acknowledged has been vetted.** -/
theorem vetted_changes (hst : s.desk.storage.Sound) (e : Event) :
    ∀ x ∈ s.changes e, x.Vetted s.config s.desk.storage := by
  intro x hx
  obtain ⟨c, hc⟩ := change?_of_mem_changes hx
  cases e with
  | request now draws c' r =>
    by_cases hclaim : ∃ t, r = .reconnect t
    · obtain ⟨t, rfl⟩ := hclaim
      obtain ⟨a, -, rfl⟩ := Option.map_eq_some_iff.mp hc
      exact fun r _ => trivial
    · rcases s.changes_request_cases now draws c' fun t ht => hclaim ⟨t, ht⟩ with
        ⟨-, -, hnone⟩ | ⟨s', ms, hgranted, -, hone⟩
      · rw [hnone] at hx
        cases hx
      · rw [hone, Option.mem_toList] at hx
        exact hgranted.vetted hst hx
  | announce now t a =>
    obtain ⟨b, -, rfl⟩ := Option.map_eq_some_iff.mp hc
    exact fun r _ => trivial
  | _ => cases hc

/-! ### Runs -/

/-- The records stay vetted in an event that spares the store. -/
theorem vetted_step {start : Storage} (hs : s.sessions.Lockstep) (hst : s.desk.storage.Sound)
    (hstart : start.Sound) {e : Event} (hspare : e.SparesStore)
    (h : start.Vetted s.config s.desk.storage) :
    start.Vetted s.config (s.step e).desk.storage :=
  (written_step hs hst hspare).vetted (vetted_changes hst e) hstart h

/-- The records stay vetted in a run of events that spare the store. -/
theorem vetted_run {start : Storage} (hs : s.sessions.Lockstep) (hst : s.desk.storage.Sound)
    (hstart : start.Sound) {events : List Event} (hspare : ∀ e ∈ events, e.SparesStore)
    (h : start.Vetted s.config s.desk.storage) :
    start.Vetted s.config (s.run events).desk.storage := by
  induction events generalizing s with
  | nil => exact h
  | cons e events ih =>
    obtain ⟨hfirst, hrest⟩ := List.forall_mem_cons.mp hspare
    have hstep := vetted_step hs hst hstart hfirst h
    rw [← config_step s e] at hstep ⊢
    exact ih (lockstep_step hs e) ((stepped hs e).edited.sound hst) hrest hstep

/-- From a start with few enough characters, no account ever has too many. -/
theorem room_of_run (config : AccountConfig) (rendezvous : RendezvousConfig) {storage : Storage}
    (servers : MapTable) (hst : storage.Sound)
    (hroom : ∀ a r, storage.accounts.get? a = some r → r.characters.length ≤ maxCharacters)
    {events : List Event} (hspare : ∀ e ∈ events, e.SparesStore) :
    ∀ a r, ((create config rendezvous storage servers).run events).desk.storage.accounts.get? a
      = some r → r.characters.length ≤ maxCharacters := by
  have hvetted := vetted_run (s := create config rendezvous storage servers)
    (Sessions.lockstep_empty _) hst hst hspare (Storage.vetted_start hroom)
  exact fun a r hr => (hvetted.records a r hr).room

/-- **Only the valid comes in.**  A service is started over accounts with no more characters than they
may have, and nobody but the service writes to the store.  Then, after any events:

* every record is made of what its account had at the start and of what keeps the rules
  (`Account.Vetted`): no account has too many characters, each character is one of those from the start
  or a novice, and each name, password and e-mail address is the one from the start or a valid one;
* the next event, too, writes what its responses acknowledge, all of which is vetted, and nothing else;
* a new character gets the verdict of the rules in their order: if it breaks none it is created, in the
  slot after all the others, and otherwise it is refused for the first one that it breaks, and nothing
  else happens. -/
theorem only_the_valid_comes_in (config : AccountConfig) (rendezvous : RendezvousConfig)
    {storage : Storage} (servers : MapTable) (hst : storage.Sound)
    (hroom : ∀ a r, storage.accounts.get? a = some r → r.characters.length ≤ maxCharacters)
    {events : List Event} (hspare : ∀ e ∈ events, e.SparesStore) :
    let s := (create config rendezvous storage servers).run events
    (∀ a r, s.desk.storage.accounts.get? a = some r →
      r.Vetted config (storage.accounts.get? a)) ∧
    (∀ e : Event, e.SparesStore →
      Storage.Written s.desk.storage (s.step e).desk.storage (s.changes e) ∧
        ∀ x ∈ s.changes e, x.Vetted config s.desk.storage) ∧
    ∀ now draws c name hairStyle hairColor gender attributes,
      let s' := s.step (.request now draws c
        (.characterCreate name hairStyle hairColor gender attributes))
      let rules := s.creationRules c name hairStyle hairColor gender attributes
      ∃ status, Rules.Verdict rules status ∧ (status = .ok ↔ ∀ rule ∈ rules, ¬ rule.1) ∧
        (status = .ok → ∃ r slot, Created s s' c
          (newCharacter config name hairStyle hairColor gender attributes) r slot) ∧
        (status ≠ .ok → s' = s.reply c (.characterCreateResponse status)) := by
  intro s
  have hs : Reachable s := (Reachable.create config rendezvous servers hst).run events
  have hconfig : s.config = config := config_run _ events
  refine ⟨?_, ?_, ?_⟩
  · have hvetted : storage.Vetted config s.desk.storage :=
      vetted_run (s := create config rendezvous storage servers) (Sessions.lockstep_empty _) hst hst
        hspare (Storage.vetted_start hroom)
    exact hvetted.records
  · intro e hspare
    have hvetted := vetted_changes hs.sound e
    rw [hconfig] at hvetted
    exact ⟨written_step hs.lockstep hs.sound hspare, hvetted⟩
  · intro now draws c name hairStyle hairColor gender attributes s' rules
    rcases creation_cases hs.sound now draws c name hairStyle hairColor gender attributes with
      ⟨status, hne, hverdict, hstep⟩ | ⟨hverdict, r, slot, hcreated⟩
    · exact ⟨status, hverdict, hverdict.ok_iff creationRules_refuse, fun h => absurd h hne,
        fun _ => hstep⟩
    · rw [hconfig] at hcreated
      exact ⟨.ok, hverdict, hverdict.ok_iff creationRules_refuse, fun _ => ⟨r, slot, hcreated⟩,
        fun h => absurd rfl h⟩

/-- Somebody registers and makes a character, next to an account that is older than the rules.  A second
character would break three rules at once, and is refused for its hair, which is checked first. -/
theorem hair_is_checked_before_the_name :
    let dawn : Timestamp := ⟨0, 0, by decide, by decide⟩
    let kay : Character :=
      ⟨"Kay", 0, 9, 2, 3, 0, 0, 100, #v[10, 10, 10, 10, 10, 0], ⟨1⟩, ⟨512, 512⟩⟩
    let ann : Account := ⟨⟨0⟩, "ann", "", "", .normal, [kay], dawn, none⟩
    let storage := Storage.ofEdits [.add ann]
    let events : List Event :=
      [.connect ⟨5⟩, .request ⟨1, dawn⟩ [] ⟨5⟩ (.register 1 "carol" "hunter22" "carol@example.net"),
        .request ⟨2, dawn⟩ [] ⟨5⟩ (.characterCreate "Lyra" 1 2 0 #v[10, 10, 10, 10, 10, 10]),
        .request ⟨3, dawn⟩ [] ⟨5⟩ (.emailChange "carol@example.org")]
    let s := (create .standard .standard storage .empty).run events
    (∃ r, s.desk.storage.accounts.get? ⟨2⟩ = some r ∧ r.Vetted .standard none ∧
      r.characters.map Character.name = ["Lyra"]) ∧
    Rules.Verdict (s.creationRules ⟨5⟩ "Lyra" 9 2 0 #v[10, 10, 10, 10, 10, 11])
      .invalidHairStyle := by
  intro dawn kay ann storage events s
  let e : Event :=
    .request ⟨4, dawn⟩ [] ⟨5⟩ (.characterCreate "Lyra" 9 2 0 #v[10, 10, 10, 10, 10, 11])
  have hvalues : ∀ r ∈ storage.accounts.values, r.characters.length ≤ maxCharacters := by decide
  have hroom : ∀ a r, storage.accounts.get? a = some r → r.characters.length ≤ maxCharacters :=
    fun a r hr => hvalues r (KeyedList.mem_values_iff.mpr ⟨a, hr⟩)
  have hstored : (s.desk.storage.accounts.get? ⟨2⟩).map
      (fun r => r.characters.map Character.name) = some ["Lyra"] := by decide +kernel
  have hnew : storage.accounts.get? ⟨2⟩ = none := by decide
  have hsent : s.queued e = [.send ⟨5⟩ (.characterCreateResponse .invalidHairStyle)] := by
    decide +kernel
  have hspare : ∀ e ∈ events, e.SparesStore := by simp [events, Event.SparesStore]
  have hvalid := only_the_valid_comes_in .standard .standard .empty
    (Storage.sound_ofEdits [.add ann]) hroom hspare
  clear_value events
  obtain ⟨hvetted, -, hverdict⟩ := hvalid
  obtain ⟨r, hr, hname⟩ := Option.map_eq_some_iff.mp hstored
  have hcarol := hvetted ⟨2⟩ r hr
  rw [hnew] at hcarol
  obtain ⟨status, hfirst, -, hok, hne⟩ :=
    hverdict ⟨4, dawn⟩ [] ⟨5⟩ "Lyra" 9 2 0 #v[10, 10, 10, 10, 10, 11]
  -- the verdict is what is sent
  have hstatus : status = .invalidHairStyle := by
    by_cases h : status = .ok
    · obtain ⟨r, slot, hcreated⟩ := hok h
      obtain ⟨info, -, -, hafter⟩ := hcreated.after
      cases hsent.symm.trans (queued_eq (congrArg (·.desk.outbox) hafter))
    · cases hsent.symm.trans (queued_eq (congrArg (·.desk.outbox) (hne h)))
      rfl
  rw [hstatus] at hfirst
  exact ⟨⟨r, hr, hcarol, hname⟩, hfirst⟩

end Service

end Lobby
