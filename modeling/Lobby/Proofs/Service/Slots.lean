/-
Lobby/Proofs/Service/Slots.lean

A slot is the same everywhere.

The place of a character in the record of its account is its slot, and four operations number characters
by themselves: the list that follows a login or a claim, the one entry that follows a new character, the
selection and the deletion.  Whatever is sent of a character is sent under its place
(`Listing`); whoever then selects or deletes that slot, from any session of the account,
reaches the character in that place (`Addresses`), and after a deletion the later ones move up by one.
This needs that places fit into the eight bits of a slot, which the rules for new characters see to.

A new character that is deleted at once leaves no trace in the store (`storage_of_undone`).

Main result: `slots_agree`.
-/
import Lobby.Proofs.Service.Tickets
import Lobby.Proofs.Service.Validity

namespace Lobby

/-! ### Messages -/

/-- A message belongs to a list of characters: it is an entry, or the response before the list. -/
def Message.lists : Message → Bool
  | loginResponse .ok => true
  | reconnectResponse .ok => true
  | characterCreateResponse .ok => true
  | characterInfo _ => true
  | _ => false

/-- No refusal belongs to a list. -/
theorem Message.outcome?_of_lists {m : Message} (h : m.lists = true) :
    m.outcome? = some .ok ∨ m.outcome? = none := by
  simp only [lists] at h
  split at h
  · exact .inl rfl
  · exact .inl rfl
  · exact .inl rfl
  · exact .inr rfl
  · cases h

namespace Service

variable {s s' : Service Storage} {e : Event} {c : ConnectionId} {a : AccountId} {r : Account}
  {x : Character} {slot : UInt8}

/-! ### Listing -/

/-- In an event a connection is sent characters of its account's record, as it is stored by then and each
under its place: all of them behind the response to a login or to a claim, the last one behind the response
to a creation. -/
structure Listing (s' : Service Storage) (c : ConnectionId) (sent : List Delivery) (r : Account)
    (first : Nat) : Prop where
  current : s'.currentAccount? c = some r
  sent : ∃ response infos, sent = (response :: infos.map .characterInfo).map (.send c) ∧
    r.Lists first infos ∧ (∀ i info, infos[i]? = some info → info.slot.toNat = first + i) ∧
    (first = 0 ∧ (response = .loginResponse .ok ∨ response = .reconnectResponse .ok) ∨
      first + 1 = r.characters.length ∧ response = .characterCreateResponse .ok)

/-- Whoever gets a message of a list gets the list. -/
def ListsRight (s' : Service Storage) (sent : List Delivery) : Prop :=
  ∀ c m, .send c m ∈ sent → m.lists = true → ∃ r first, Listing s' c sent r first

theorem listsRight_of_silent {sent : List Delivery}
    (h : ∀ c m, .send c m ∈ sent → m.lists = false) : ListsRight s' sent := by
  intro c m hm hlists
  rw [h c m hm] at hlists
  cases hlists

/-- One message that belongs to no list is no part of one. -/
theorem listsRight_of_response {m : Message} (h : m.lists = false) :
    ListsRight s' ([m].map (.send c)) := by
  refine listsRight_of_silent ?_
  intro d m' hm'
  cases List.mem_singleton.mp hm'
  exact h

/-- The list is for the connection that the messages are sent to. -/
theorem Listing.listsRight {ms : List Message} {first : Nat}
    (h : Listing s' c (ms.map (.send c)) r first) : ListsRight s' (ms.map (.send c)) := by
  intro d m hm _
  obtain ⟨m', -, hsame⟩ := List.mem_map.mp hm
  cases hsame
  exact ⟨r, first, h⟩

/-- The response to a request that is neither a login nor a creation belongs to no list. -/
theorem lists_eq_false {q : Request} (hq : ∀ t, q ≠ .reconnect t) {m : Message}
    (hkind : m.kind = q.kind ++ "Response") (hlogin : m ≠ .loginResponse .ok)
    (hcreate : m ≠ .characterCreateResponse .ok) : m.lists = false := by
  refine Bool.eq_false_iff.mpr ?_
  intro h
  simp only [Message.lists] at h
  split at h
  · exact hlogin rfl
  · cases q with
    | reconnect t => exact hq t rfl
    | _ => simp [Message.kind, Request.kind] at hkind
  · exact hcreate rfl
  · cases q <;> simp [Message.kind, Request.kind] at hkind
  · cases h

/-- Answers list right, as long as places fit into slots. -/
theorem Answer.listsRight {q : Option Request} {ms : List Message} (h : Answer s s' c q ms)
    (hst : s'.desk.storage.Sound)
    (hroom : ∀ a r, s'.desk.storage.accounts.get? a = some r → r.characters.length ≤ maxCharacters) :
    ListsRight s' (ms.map (.send c)) := by
  have hfits : ∀ {r}, s'.currentAccount? c = some r → r.characters.length ≤ maxCharacters :=
    fun hcurrent => hroom _ _ (stored_of_currentAccount? hst hcurrent).2
  cases h with
  | invalid => exact listsRight_of_response rfl
  | loggedIn hcurrent hlists =>
    have hplaces := hlists.toNat_slot (hfits hcurrent)
    exact Listing.listsRight ⟨hcurrent, _, _, rfl, hlists, hplaces, .inl ⟨rfl, .inl rfl⟩⟩
  | created hcurrent hlength hx hshows =>
    have hlists := Account.lists_last hlength hx hshows
    have hplaces := hlists.toNat_slot (hfits hcurrent)
    exact Listing.listsRight ⟨hcurrent, _, [_], rfl, hlists, hplaces, .inr ⟨hlength.symm, rfl⟩⟩
  | response hq hkind hlogin hcreate =>
    exact listsRight_of_response (lists_eq_false hq hkind hlogin hcreate)
  | waiting => exact listsRight_of_silent fun _ _ => nofun
  | @turnedAway _ status hne =>
    refine listsRight_of_response (Bool.eq_false_iff.mpr ?_)
    intro h
    rcases Message.outcome?_of_lists h with hok | hnone
    · exact hne (Option.some.inj hok)
    · cases hnone
  | readmitted hcurrent hlists =>
    have hplaces := hlists.toNat_slot (hfits hcurrent)
    exact Listing.listsRight ⟨hcurrent, _, _, rfl, hlists, hplaces, .inl ⟨rfl, .inr rfl⟩⟩

/-- **Whatever an event sends of characters is listed right**, as long as places fit into slots. -/
theorem listsRight_step (hs : s.sessions.Lockstep) (hst : s.desk.storage.Sound) (e : Event)
    (hroom : ∀ a r, (s.step e).desk.storage.accounts.get? a = some r →
      r.characters.length ≤ maxCharacters) : ListsRight (s.step e) (s.queued e) := by
  have hst' : (s.step e).desk.storage.Sound := (stepped hs e).edited.sound hst
  have hnothing : s.queued e = [] → ListsRight (s.step e) (s.queued e) := by
    intro h
    rw [h]
    exact listsRight_of_silent fun _ _ => nofun
  cases e with
  | request now draws c q =>
    by_cases hclaim : ∃ t, q = .reconnect t
    · obtain ⟨t, rfl⟩ := hclaim
      obtain ⟨ms, hanswer, houtbox⟩ := answer_of_claim hs hst now draws c t
      rw [queued_eq houtbox]
      exact hanswer.listsRight hst' hroom
    · have hq : ∀ t, q ≠ .reconnect t := fun t ht => hclaim ⟨t, ht⟩
      rcases s.step_request_cases now draws c hq with
        ⟨status, hne, -, hsent⟩ | ⟨s'', ms, hgranted, hstep, hsent⟩ <;> rw [hsent]
      · exact (Answer.refusal (s := s) hq hne).listsRight hst' hroom
      · have hanswer := hgranted.answer hst
        rw [← hstep] at hanswer
        exact hanswer.listsRight hst' hroom
  | invalid c =>
    rw [show s.queued (.invalid c) = [Message.invalid].map (.send c) from queued_eq rfl]
    exact listsRight_of_response rfl
  | connect c => exact hnothing (queued_connect s c)
  | disconnect c => exact hnothing (queued_of_desk rfl)
  | announce now t a =>
    rcases announce_cases hs now t a with ⟨-, heq⟩ | ⟨c, -, heq⟩
    · exact hnothing (queued_of_desk (by rw [heq]))
    · obtain ⟨ms, hanswer, houtbox⟩ := answer_of_meeting hst heq t
      rw [queued_eq houtbox]
      exact hanswer.listsRight hst' hroom
  | sweep now =>
    refine listsRight_of_silent ?_
    intro c m hm
    rw [queued_sweep hs] at hm
    obtain ⟨⟨t, d | p⟩, -, hfarewell⟩ := List.mem_flatMap.mp hm
    · rcases List.mem_cons.mp hfarewell with hsame | hother
      · cases hsame
        rfl
      · cases List.mem_singleton.mp hother
    · cases hfarewell
  | collect => exact hnothing (queued_collect s)
  | edit x => exact hnothing (queued_eq (List.append_nil _).symm)
  | host servers => exact hnothing (queued_eq (List.append_nil _).symm)

/-! ### Selecting and deleting -/

/-- A slot stands for a character of a record.  Whoever selects the slot gets a ticket for that
character if a server hosts the character's map, and is told of a failure if none does.  Whoever deletes
the slot deletes that character from the record: those before it keep their places, those after it move
up by one, and nothing else changes. -/
structure Addresses (s : Service Storage) (c : ConnectionId) (a : AccountId) (r : Account)
    (slot : UInt8) (x : Character) : Prop where
  selected : ∀ (now : Moment) (draws : List Draw) server, s.desk.servers.resolve x.map = some server →
    (∃ draw ∈ draws, s.sessions.rendezvous.contains draw.token = false) →
    ∃ ticket sessions desk,
      Desk.Issued now.steady draws s.desk desk s.sessions sessions ⟨a, r, x, server⟩ ticket ∧
      s.step (.request now draws c (.characterSelect slot)) = { s with
        sessions, desk := desk.send c (.characterSelectResponse .ok (some ticket)) }
  unhosted : ∀ now draws, s.desk.servers.resolve x.map = none →
    s.step (.request now draws c (.characterSelect slot))
      = s.reply c (.characterSelectResponse .failure none)
  deleted : ∀ now draws, ∃ rest,
    (∀ i, rest[i]? = if i < slot.toNat then r.characters[i]? else r.characters[i + 1]?) ∧
    s.step (.request now draws c (.characterDelete slot))
      = (s.withStorage { s.desk.storage with
          accounts := s.desk.storage.accounts.insert a { r with characters := rest } }).reply c
            (.characterDeleteResponse .ok)

/-- A character in a slot is deleted. -/
theorem step_delete_of_listed (hst : s.desk.storage.Sound) (hcurrent : s.currentAccount? c = some r)
    (hslot : slot.toNat < r.characters.length) (now : Moment) (draws : List Draw) :
    s.step (.request now draws c (.characterDelete slot))
      = (s.withStorage { s.desk.storage with
          accounts := s.desk.storage.accounts.insert r.id
            { r with characters := r.characters.eraseIdx slot.toNat } }).reply c
              (.characterDeleteResponse .ok) := by
  obtain ⟨-, hget⟩ := stored_of_currentAccount? hst hcurrent
  have hwritten : Backend.persist s.desk.storage
      { r with characters := r.characters.eraseIdx slot.toNat } = .ok _ :=
    Storage.persist_of_stored (a := { r with characters := _ }) hget
  simp only [step, handle, deleteCharacter, hcurrent, if_neg (Nat.not_le_of_lt hslot), persist,
    hwritten, conclude]

/-- **A listed slot stands for the character that is listed under it.** -/
theorem addresses_of_listed (hst : s.desk.storage.Sound)
    (hsession : s.sessions.get? c = some (.authenticated a))
    (hget : s.desk.storage.accounts.get? a = some r) (hx : r.characters[slot.toNat]? = some x) :
    Addresses s c a r slot x where
  selected := by
    intro now draws server hserver hfresh
    have hselect : s.desk.select s.sessions c slot = .ok ⟨a, r, x, server⟩ :=
      Desk.select_eq_ok_iff.mpr ⟨hsession, hget, hx, hserver⟩
    obtain ⟨ticket, sessions, desk, hresult, hissued⟩ :=
      Desk.exists_issued hfresh hselect now.steady now.calendar
    exact ⟨ticket, sessions, desk, hissued, step_of_issued hresult⟩
  unhosted := by
    intro now draws hserver
    have hselect : s.desk.select s.sessions c slot = .error (.noServerForMap x.map) := by
      have hholder := Sessions.accountOf?_eq_some_iff.mpr hsession
      have hfind : Backend.findById s.desk.storage a = some r := hget
      simp only [Desk.select, hholder, hfind, hx, hserver]
    exact step_of_not_issued (Desk.issue_of_select_error hselect ..)
  deleted := by
    intro now draws
    obtain rfl : r.id = a := hst.own a r hget
    have hslot : slot.toNat < r.characters.length := (List.getElem?_eq_some_iff.mp hx).1
    refine ⟨r.characters.eraseIdx slot.toNat, fun i => List.getElem?_eraseIdx, ?_⟩
    exact step_delete_of_listed hst ((currentAccount?_eq hsession).trans hget) hslot now draws

/-- A slot that is not listed is refused by whoever is asked for it. -/
theorem refused_of_unlisted (hsession : s.sessions.get? c = some (.authenticated a))
    (hget : s.desk.storage.accounts.get? a = some r) (hx : r.characters[slot.toNat]? = none)
    (now : Moment) (draws : List Draw) :
    s.step (.request now draws c (.characterSelect slot))
        = s.reply c (.characterSelectResponse .invalidArgument none) ∧
      s.step (.request now draws c (.characterDelete slot))
        = s.reply c (.characterDeleteResponse .invalidArgument) := by
  have hcurrent : s.currentAccount? c = some r := (currentAccount?_eq hsession).trans hget
  have hselect : s.desk.select s.sessions c slot = .error (.noSuchCharacter a slot) := by
    have hholder := Sessions.accountOf?_eq_some_iff.mpr hsession
    have hfind : Backend.findById s.desk.storage a = some r := hget
    simp only [Desk.select, hholder, hfind, hx]
  have hbeyond : r.characters.length ≤ slot.toNat := List.getElem?_eq_none_iff.mp hx
  refine ⟨step_of_not_issued (Desk.issue_of_select_error hselect ..), ?_⟩
  simp only [step, handle, deleteCharacter, hcurrent, if_pos hbeyond, conclude]

/-! ### Creating and deleting at once -/

/-- The last character goes, and the ones before it are left. -/
theorem eraseIdx_append_last (xs : List Character) (x : Character) :
    (xs ++ [x]).eraseIdx xs.length = xs := by
  rw [List.eraseIdx_append_of_length_le (Nat.le_refl _), Nat.sub_self]
  exact List.append_nil xs

/-- A new character that is deleted at once, from any session of its account, leaves no trace in the
store. -/
theorem storage_of_undone (hst : s.desk.storage.Sound) (hcreated : Created s s' c x r slot)
    {d : ConnectionId} (hd : s'.sessions.get? d = some (.authenticated r.id)) (now : Moment)
    (draws : List Draw) :
    s'.step (.request now draws d (.characterDelete slot))
      = (s'.withStorage s.desk.storage).reply d (.characterDeleteResponse .ok) := by
  obtain ⟨-, hget⟩ := stored_of_currentAccount? hst hcreated.current
  let r' : Account := { r with characters := r.characters ++ [x] }
  have hstorage : s'.desk.storage
      = { s.desk.storage with accounts := s.desk.storage.accounts.insert r.id r' } := by
    obtain ⟨info, -, -, heq⟩ := hcreated.after
    rw [heq]
    rfl
  have hst' : s'.desk.storage.Sound :=
    Storage.sound_persist hst (hstorage ▸ Storage.persist_of_stored (a := r') hget)
  have hcurrent : s'.currentAccount? d = some r' := by
    rw [currentAccount?_eq hd, hstorage, KeyedList.get?_insert, if_pos rfl]
  have hslot : slot.toNat < r'.characters.length := by
    rw [hcreated.last, List.length_append]
    exact Nat.lt_succ_self _
  rw [step_delete_of_listed hst' hcurrent hslot, hstorage]
  -- the record that is written is the one that was there before
  have hback : { r' with characters := r'.characters.eraseIdx slot.toNat } = r := by
    show { r with characters := (r.characters ++ [x]).eraseIdx slot.toNat } = r
    rw [hcreated.last, eraseIdx_append_last]
  rw [hback]
  show (s'.withStorage { s.desk.storage with
    accounts := (s.desk.storage.accounts.insert r.id r').insert r.id r }).reply d _ = _
  rw [KeyedList.insert_insert, KeyedList.insert_of_get?_eq_some hget]

/-- A creation that is answered with a success has created the character, and nobody had its name. -/
theorem created_of_ok (hst : s.desk.storage.Sound) {now : Moment} {draws : List Draw} {name : String}
    {hairStyle hairColor gender : UInt8} {attributes : Attributes}
    (hok : .send c (.characterCreateResponse .ok) ∈ s.queued (.request now draws c
      (.characterCreate name hairStyle hairColor gender attributes))) :
    s.desk.storage.characterNameExists name = false ∧ ∃ r slot, Created s
      (s.step (.request now draws c (.characterCreate name hairStyle hairColor gender attributes))) c
      (newCharacter s.config name hairStyle hairColor gender attributes) r slot := by
  rcases creation_cases hst now draws c name hairStyle hairColor gender attributes with
    ⟨status, hne, -, hstep⟩ | ⟨hverdict, hcreated⟩
  · rw [queued_eq (congrArg (·.desk.outbox) hstep)] at hok
    cases List.mem_singleton.mp hok
    exact absurd rfl hne
  · exact ⟨free_of_verdict hverdict, hcreated⟩

/-- **Slots agree.**  A service is started over accounts with no more characters than they may have, and
nobody but the service writes to the store.  Then, after any events:

* the next event, too, sends characters under the slots that are their places: all of them after a login
  or a claim, and the new one after a creation (`ListsRight`);
* for every session that is logged in as an account that is stored, a slot under which a character is
  listed stands for that character when it is selected and when it is deleted (`Addresses`), and any
  other slot is refused as an invalid argument, and nothing else happens;
* a new character that is deleted at once, in the slot that it was given and from any session of its
  account, leaves no trace in the store, so that its name is free again. -/
theorem slots_agree (config : AccountConfig) (rendezvous : RendezvousConfig) {storage : Storage}
    (servers : MapTable) (hst : storage.Sound)
    (hroom : ∀ a r, storage.accounts.get? a = some r → r.characters.length ≤ maxCharacters)
    {events : List Event} (hspare : ∀ e ∈ events, e.SparesStore) :
    let s := (create config rendezvous storage servers).run events
    (∀ e : Event, e.SparesStore → ListsRight (s.step e) (s.queued e)) ∧
    (∀ c a r, s.sessions.get? c = some (.authenticated a) →
      s.desk.storage.accounts.get? a = some r → ∀ slot : UInt8,
        (∀ x, r.characters[slot.toNat]? = some x → Addresses s c a r slot x) ∧
        (r.characters[slot.toNat]? = none → ∀ now draws,
          s.step (.request now draws c (.characterSelect slot))
              = s.reply c (.characterSelectResponse .invalidArgument none) ∧
            s.step (.request now draws c (.characterDelete slot))
              = s.reply c (.characterDeleteResponse .invalidArgument))) ∧
    ∀ now draws c name hairStyle hairColor gender attributes,
      let e : Event := .request now draws c
        (.characterCreate name hairStyle hairColor gender attributes)
      .send c (.characterCreateResponse .ok) ∈ s.queued e →
      ∃ r slot, Created s (s.step e) c
          (newCharacter s.config name hairStyle hairColor gender attributes) r slot ∧
        ∀ now draws d, (s.step e).sessions.get? d = some (.authenticated r.id) →
          let e' : Event := .request now draws d (.characterDelete slot)
          let s' := (s.step e).step e'
          (s.step e).queued e' = [.send d (.characterDeleteResponse .ok)] ∧
            s'.desk.storage = s.desk.storage ∧
            s'.desk.storage.characterNameExists name = false := by
  intro s
  have hs : Reachable s := (Reachable.create config rendezvous servers hst).run events
  refine ⟨?_, ?_, ?_⟩
  · intro e hspare'
    refine listsRight_step hs.lockstep hs.sound e ?_
    have hrun : s.step e = (create config rendezvous storage servers).run (events ++ [e]) :=
      (run_append _ events [e]).symm
    rw [hrun]
    refine room_of_run config rendezvous servers hst hroom (List.forall_mem_append.mpr ⟨hspare, ?_⟩)
    exact List.forall_mem_singleton.mpr hspare'
  · intro c a r hsession hget slot
    exact ⟨fun x => addresses_of_listed hs.sound hsession hget,
      fun hx => refused_of_unlisted hsession hget hx⟩
  · intro now draws c name hairStyle hairColor gender attributes e hok
    obtain ⟨hfree, r, slot, hcreated⟩ := created_of_ok hs.sound hok
    refine ⟨r, slot, hcreated, ?_⟩
    intro now draws d hd e' s'
    have hundone : s' = ((s.step e).withStorage s.desk.storage).reply d
        (.characterDeleteResponse .ok) := storage_of_undone hs.sound hcreated hd now draws
    have hstorage : s'.desk.storage = s.desk.storage := congrArg (·.desk.storage) hundone
    refine ⟨queued_eq (congrArg (·.desk.outbox) hundone), hstorage, ?_⟩
    rw [hstorage]
    exact hfree

/-- Two sessions of one account: the second one deletes the character in the middle, after which the first
one finds the last character in its slot; and what the first one creates behind it, and is sent with all
that is to be seen of it, the second one undoes. -/
theorem last_character_moves_up :
    let dawn : Timestamp := ⟨0, 0, by decide, by decide⟩
    let character : String → Character := fun name =>
      ⟨name, 0, 1, 2, 3, 0, 0, 100, #v[10, 10, 10, 10, 10, 10], ⟨1⟩, ⟨512, 512⟩⟩
    let ann : Account :=
      ⟨⟨0⟩, "ann", "", "", .normal, ["Kay", "Lyra", "Mara"].map character, dawn, none⟩
    let storage := Storage.ofEdits [.add ann]
    let events : List Event :=
      [.connect ⟨5⟩, .announce ⟨1, dawn⟩ "gate" ⟨1⟩, .request ⟨2, dawn⟩ [] ⟨5⟩ (.reconnect "gate"),
        .connect ⟨6⟩, .announce ⟨3, dawn⟩ "door" ⟨1⟩, .request ⟨4, dawn⟩ [] ⟨6⟩ (.reconnect "door"),
        .request ⟨5, dawn⟩ [] ⟨6⟩ (.characterDelete 1)]
    let s := (create .standard .standard storage .empty).run events
    let e : Event :=
      .request ⟨6, dawn⟩ [] ⟨5⟩ (.characterCreate "Nora" 1 2 0 #v[10, 10, 10, 10, 10, 10])
    (∃ r, s.desk.storage.accounts.get? ⟨1⟩ = some r ∧
      Addresses s ⟨5⟩ ⟨1⟩ r 1 (character "Mara")) ∧
    ListsRight (s.step e) (s.queued e) ∧
    s.queued e = [.send ⟨5⟩ (.characterCreateResponse .ok), .send ⟨5⟩ (.characterInfo
      ⟨2, "Nora", 0, 1, 2, 1, 0, 0, 0, #v[10, 10, 10, 10, 10, 10]⟩)] ∧
    ((s.step e).step (.request ⟨7, dawn⟩ [] ⟨6⟩ (.characterDelete 2))).desk.storage
      = s.desk.storage := by
  intro dawn character ann storage events s e
  have hvalues : ∀ r ∈ storage.accounts.values, r.characters.length ≤ maxCharacters := by decide
  have hroom : ∀ a r, storage.accounts.get? a = some r → r.characters.length ≤ maxCharacters :=
    fun a r hr => hvalues r (KeyedList.mem_values_iff.mpr ⟨a, hr⟩)
  have hfirst : s.sessions.get? ⟨5⟩ = some (.authenticated ⟨1⟩) := by decide +kernel
  have hmara : (s.desk.storage.accounts.get? ⟨1⟩).bind (·.characters[1]?)
      = some (character "Mara") := by decide +kernel
  have htwo : (s.currentAccount? ⟨5⟩).map (fun r => (r.id, r.characters.length)) = some (⟨1⟩, 2) := by
    decide +kernel
  have hsent : s.queued e = [.send ⟨5⟩ (.characterCreateResponse .ok), .send ⟨5⟩ (.characterInfo
      ⟨2, "Nora", 0, 1, 2, 1, 0, 0, 0, #v[10, 10, 10, 10, 10, 10]⟩)] := by decide +kernel
  have hok : .send ⟨5⟩ (.characterCreateResponse .ok) ∈ s.queued e := by
    rw [hsent]
    exact List.mem_cons_self ..
  have hsecond : (s.step e).sessions.get? ⟨6⟩ = some (.authenticated ⟨1⟩) := by decide +kernel
  have hspare : ∀ e ∈ events, e.SparesStore := by simp [events, Event.SparesStore]
  have hslots := slots_agree .standard .standard .empty (Storage.sound_ofEdits [.add ann]) hroom hspare
  clear_value events
  obtain ⟨hlists, haddresses, hundone⟩ := hslots
  obtain ⟨r, hr, hx⟩ := Option.bind_eq_some_iff.mp hmara
  obtain ⟨r', slot, hcreated, hback⟩ := hundone ⟨6, dawn⟩ [] ⟨5⟩ "Nora" 1 2 0 _ hok
  -- the new character is in the slot after the two that are left
  rw [hcreated.current] at htwo
  obtain ⟨hid, hlength⟩ := Prod.mk.inj (Option.some.inj htwo)
  have hslot : slot = 2 := UInt8.toNat_inj.mp (hcreated.last.trans hlength)
  rw [hslot, hid] at hback
  exact ⟨⟨r, hr, (haddresses ⟨5⟩ ⟨1⟩ r hfirst hr 1).1 _ hx⟩, hlists e trivial, hsent,
    (hback ⟨7, dawn⟩ [] ⟨6⟩ hsecond).2.1⟩

end Service

end Lobby
