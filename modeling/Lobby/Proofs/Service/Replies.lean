/-
Lobby/Proofs/Service/Replies.lean

What is queued, and for whom.

A request other than a claim is answered with one response, and if the response tells no success then
nothing else has happened (`refused_request_changes_nothing`).  This needs nothing to be known of the
service or of its store, which may refuse whatever it likes.

A frame is answered to the connection that it comes from, and to nobody else.  `Answer` says with
which messages, for a frame that spells no request, for a claim, and for any other request; the lists
of characters that follow a response are those of the account that the connection is logged in as by
then, with all that is to be seen of each (`frame_is_answered_to_its_sender`).
-/
import Lobby.Proofs.Account
import Lobby.Proofs.Service.Run

namespace Lobby

namespace Service

variable {σ : Type} [Backend σ] {s s' : Service σ} {now : Moment} {draws : List Draw}
  {c : ConnectionId} {r : Request} {ms : List Message} {e : Event}

/-! ### What an event queues -/

/-- What an event queues. -/
def queued (s : Service σ) (e : Event) : List Delivery :=
  (s.step e).desk.outbox.drop s.desk.outbox.length

theorem queued_eq {ds : List Delivery} (h : (s.step e).desk.outbox = s.desk.outbox ++ ds) :
    s.queued e = ds := by
  rw [queued, h, List.drop_left]

/-- What is granted leaves the messages to be queued to the response. -/
theorem Granted.outbox (h : Granted s now draws c r s' ms) : s'.desk.outbox = s.desk.outbox := by
  have hrewrites : ∀ {a a' : Account}, Rewrites s s' c a a' → s'.desk.outbox = s.desk.outbox := by
    intro a a' hrewrites
    rw [hrewrites.kept]
    rfl
  cases h with
  | login _ _ _ _ _ _ hs' =>
    rw [hs']
    exact Desk.outbox_tryPersist s.desk _
  | emailChange _ _ h => exact hrewrites h
  | passwordChange _ _ h => exact hrewrites h
  | characterCreate _ _ _ h => exact hrewrites h
  | characterDelete _ h => exact hrewrites h
  | logout _ => rfl
  | register => rfl
  | unregister => rfl
  | emailGet _ => rfl
  | characterSelect _ _ => rfl

/-- The characters of an account are listed without an outcome. -/
theorem outcome?_of_mem_infos {infos : List CharacterSummary} {m : Message}
    (h : m ∈ infos.map Message.characterInfo) : m.outcome? = none := by
  obtain ⟨x, -, rfl⟩ := List.mem_map.mp h
  rfl

theorem outcome?_of_mem_listing {m : Message} (h : m ∈ s.listing c) : m.outcome? = none := by
  simp only [listing] at h
  split at h
  · cases h
  · exact outcome?_of_mem_infos h

theorem outcome?_of_mem_listingAt {m : Message} {slot : UInt8} (h : m ∈ s.listingAt c slot) :
    m.outcome? = none := by
  simp only [listingAt] at h
  split at h
  · cases h
  · cases List.mem_singleton.mp h
    rfl

/-- A request that is granted is told so in a response of its own kind; whatever follows is none. -/
theorem Granted.messages (h : Granted s now draws c r s' ms) :
    ∃ m rest, ms = m :: rest ∧ m.kind = (r.response .ok).kind ∧ m.outcome? = some .ok ∧
      ∀ m' ∈ rest, m'.outcome? = none := by
  cases h with
  | login => exact ⟨_, _, rfl, rfl, rfl, fun m' => outcome?_of_mem_listing⟩
  | characterCreate => exact ⟨_, _, rfl, rfl, rfl, fun m' => outcome?_of_mem_listingAt⟩
  | _ => exact ⟨_, [], rfl, rfl, rfl, List.forall_mem_nil _⟩

/-! ### Requests that are refused -/

/-- A request other than a claim is refused or granted, and the messages are queued for the connection
that makes it. -/
theorem step_request_cases (s : Service σ) (now : Moment) (draws : List Draw) (c : ConnectionId)
    (hr : ∀ t, r ≠ .reconnect t) :
    (∃ status, status ≠ .ok ∧
      s.step (.request now draws c r) = s.reply c (r.response status) ∧
      s.queued (.request now draws c r) = [.send c (r.response status)]) ∨
    ∃ s' ms, Granted s now draws c r s' ms ∧
      s.step (.request now draws c r) = s'.replyAll c ms ∧
      s.queued (.request now draws c r) = ms.map (.send c) := by
  rcases s.answered now draws c hr with ⟨status, hne, heq⟩ | ⟨s', ms, hgranted, heq⟩
  · have hstep : s.step (.request now draws c r) = s.reply c (r.response status) := heq
    refine .inl ⟨status, hne, hstep, queued_eq ?_⟩
    rw [hstep]
    rfl
  · have hstep : s.step (.request now draws c r) = s'.replyAll c ms := heq
    refine .inr ⟨s', ms, hgranted, hstep, queued_eq ?_⟩
    rw [hstep, ← hgranted.outbox]
    rfl

/-- A response that tells no success is the response to a request that is refused. -/
theorem step_of_refusal (hr : ∀ t, r ≠ .reconnect t) {d : ConnectionId} {m : Message}
    {status : Status} (hm : .send d m ∈ s.queued (.request now draws c r))
    (hstatus : m.outcome? = some status) (hrefused : status ≠ .ok) :
    m.kind = r.kind ++ "Response" ∧ s.step (.request now draws c r) = s.reply c m := by
  rcases s.step_request_cases now draws c hr with
    ⟨status', -, hstep, hsent⟩ | ⟨s', ms, hgranted, -, hsent⟩ <;> rw [hsent] at hm
  · cases List.mem_singleton.mp hm
    exact ⟨r.kind_response status', hstep⟩
  · -- what is queued for a request that is granted tells a success or no outcome at all
    obtain ⟨response, rest, rfl, -, hok, hrest⟩ := hgranted.messages
    obtain ⟨m', hm', hsame⟩ := List.mem_map.mp hm
    cases hsame
    rcases List.mem_cons.mp hm' with rfl | hmem
    · rw [hok] at hstatus
      cases hstatus
      exact absurd rfl hrefused
    · rw [hrest m hmem] at hstatus
      cases hstatus

/-- **A request that is refused changes nothing, whatever the store does.**  If a response to a request
other than a claim tells an outcome that is no success, then the accounts, the sessions, the
rendezvous and the announcements are what they were, and that response is all that is queued. -/
theorem refused_request_changes_nothing (s : Service σ) (now : Moment) (draws : List Draw)
    (c : ConnectionId) {r : Request} (hr : ∀ t, r ≠ .reconnect t) {d : ConnectionId} {m : Message}
    {status : Status} (hm : .send d m ∈ s.queued (.request now draws c r))
    (hstatus : m.outcome? = some status) (hrefused : status ≠ .ok) :
    let s' := s.step (.request now draws c r)
    s'.desk.storage = s.desk.storage ∧ s'.sessions.table = s.sessions.table ∧
      s'.sessions.rendezvous = s.sessions.rendezvous ∧ s'.desk.announced = s.desk.announced ∧
      m.kind = r.kind ++ "Response" ∧ s'.desk.outbox = s.desk.outbox ++ [.send c m] := by
  intro s'
  obtain ⟨hkind, hs'⟩ := step_of_refusal hr hm hstatus hrefused
  have hsame : s' = s.reply c m := hs'
  rw [hsame]
  exact ⟨rfl, rfl, rfl, rfl, hkind, rfl⟩

/-- A store that takes no write refuses to delete a character; somebody else's claim goes on
waiting. -/
theorem deletion_fails_in_an_outage :
    let dawn : Timestamp := ⟨0, 0, by decide, by decide⟩
    let kay : Character :=
      ⟨"Kay", 0, 1, 2, 3, 0, 0, 100, #v[10, 10, 10, 10, 10, 10], ⟨1⟩, ⟨512, 512⟩⟩
    let ann : Account := ⟨⟨0⟩, "ann", "", "", .normal, [kay], dawn, none⟩
    let store : Outage Storage := ⟨Storage.ofEdits [.add ann], true, true, true⟩
    let s := (create .standard .standard store .empty).run
      [.connect ⟨5⟩, .announce ⟨1, dawn⟩ "gate" ⟨1⟩,
        .request ⟨2, dawn⟩ [] ⟨5⟩ (.reconnect "gate"), .connect ⟨6⟩,
        .request ⟨3, dawn⟩ [] ⟨6⟩ (.reconnect "tower")]
    let e : Event := .request ⟨4, dawn⟩ [] ⟨5⟩ (.characterDelete 0)
    s.sessions.get? ⟨5⟩ = some (.authenticated ⟨1⟩) ∧
      (s.step e).sessions.rendezvous = s.sessions.rendezvous ∧
      (s.step e).desk.outbox
        = s.desk.outbox ++ [.send ⟨5⟩ (.characterDeleteResponse .failure)] := by
  intro dawn kay ann store s e
  have hc : s.sessions.get? ⟨5⟩ = some (.authenticated ⟨1⟩) := by decide
  have hm : .send ⟨5⟩ (.characterDeleteResponse .failure) ∈ s.queued e := by decide
  have hr : ∀ t, Request.characterDelete 0 ≠ .reconnect t := by simp
  obtain ⟨-, -, hrendezvous, -, -, houtbox⟩ :=
    refused_request_changes_nothing s ⟨4, dawn⟩ [] ⟨5⟩ hr hm rfl nofun
  clear_value s
  exact And.intro hc (And.intro hrendezvous houtbox)

/-! ### The record of a connection's account -/

section InMemory

variable {s s' : Service Storage} {a a' : Account}

/-- The account of a session is looked up by its number. -/
theorem currentAccount?_eq {id : AccountId}
    (hc : s.sessions.get? c = some (.authenticated id)) :
    s.currentAccount? c = s.desk.storage.accounts.get? id := by
  rw [currentAccount?, Sessions.accountOf?_eq_some_iff.mpr hc]
  rfl

/-- The record of the account that a connection is logged in as is kept under its own number. -/
theorem stored_of_currentAccount? (hsound : s.desk.storage.Sound)
    (h : s.currentAccount? c = some a) :
    s.sessions.accountOf? c = some a.id ∧ s.desk.storage.accounts.get? a.id = some a := by
  obtain ⟨i, hi, hget⟩ := Option.bind_eq_some_iff.mp h
  obtain rfl : a.id = i := hsound.own i a hget
  exact ⟨hi, hget⟩

/-- A record that has just been kept is the one of every connection that is logged in as its
account. -/
theorem currentAccount?_of_insert {accounts : KeyedList AccountId Account}
    (hsession : s.sessions.accountOf? c = some a.id)
    (hkept : s.desk.storage.accounts = accounts.insert a.id a) : s.currentAccount? c = some a := by
  rw [currentAccount?, hsession]
  show s.desk.storage.accounts.get? a.id = some a
  rw [hkept, KeyedList.get?_insert, if_pos rfl]

/-- The record that is written back is kept, under the number that it had. -/
theorem Rewrites.stored (hsound : s.desk.storage.Sound) (h : Rewrites s s' c a a') :
    s.sessions.accountOf? c = some a.id ∧ s.desk.storage.accounts.get? a.id = some a ∧
      s'.sessions = s.sessions ∧
      s'.desk.storage
        = { s.desk.storage with accounts := s.desk.storage.accounts.insert a'.id a' } := by
  obtain ⟨hsession, hget⟩ := stored_of_currentAccount? hsound h.current
  refine ⟨hsession, hget, ?_, (Storage.persist_eq h.persisted).2⟩
  rw [h.kept]
  rfl

/-! ### Frames -/

/-- With which messages a frame is answered, by what it spells; `s` and `s'` are the service before and
after it.

* A frame that spells no request is complained of.
* A login is followed by the characters of the account that the connection is logged in as by then.
* A new character is listed as it is stored, in the slot that comes last by then.
* Any other request has its one response, and so has a login or a new character that is refused.
* A claim is sent nothing while it waits; when it is met it is refused, or the characters of the account
follow. -/
inductive Answer (s s' : Service Storage) (c : ConnectionId) : Option Request → List Message → Prop
    where
  | invalid :
      s'.sessions = s.sessions → s'.desk.storage = s.desk.storage → Answer s s' c none [.invalid]
  | loggedIn {clientVersion : UInt32} {username password : String} {a : Account}
      {infos : List CharacterSummary} :
      s'.currentAccount? c = some a → a.Lists 0 infos →
      Answer s s' c (some (.login clientVersion username password))
        (.loginResponse .ok :: infos.map .characterInfo)
  | created {name : String} {hairStyle hairColor gender : UInt8} {attributes : Attributes}
      {a : Account} {x : Character} {info : CharacterSummary} :
      s'.currentAccount? c = some a → a.characters.length = info.slot.toNat + 1 →
      a.characters[info.slot.toNat]? = some x → info.Shows x →
      Answer s s' c (some (.characterCreate name hairStyle hairColor gender attributes))
        [.characterCreateResponse .ok, .characterInfo info]
  | response {r : Request} {m : Message} :
      (∀ t, r ≠ .reconnect t) → m.kind = r.kind ++ "Response" →
      m ≠ .loginResponse .ok → m ≠ .characterCreateResponse .ok → Answer s s' c (some r) [m]
  | waiting {t : String} : Answer s s' c (some (.reconnect t)) []
  | turnedAway {t : String} {status : Status} :
      status ≠ .ok → Answer s s' c (some (.reconnect t)) [.reconnectResponse status]
  | readmitted {t : String} {a : Account} {infos : List CharacterSummary} :
      s'.currentAccount? c = some a → a.Lists 0 infos →
      Answer s s' c (some (.reconnect t)) (.reconnectResponse .ok :: infos.map .characterInfo)

/-- A request that is refused has its one response. -/
theorem Answer.refusal (hr : ∀ t, r ≠ .reconnect t) {status : Status} (hne : status ≠ .ok) :
    Answer s s' c (some r) [r.response status] := by
  have hoff : ∀ m : Message, m.outcome? = some .ok → r.response status ≠ m := by
    rintro m hm rfl
    rw [r.outcome?_response] at hm
    exact hne (Option.some.inj hm)
  exact .response hr (r.kind_response status) (hoff _ rfl) (hoff _ rfl)

/-- A request that is granted is answered with the messages that it is granted with. -/
theorem Granted.answer (hsound : s.desk.storage.Sound) (h : Granted s now draws c r s' ms) :
    Answer s (s'.replyAll c ms) c (some r) ms := by
  cases h with
  | @login _ _ _ a sessions _ _ _ _ hverify _ hlogin hs' =>
    -- the record that was found is kept with its last login, and found again for the list
    obtain ⟨-, hget, -⟩ := hsound.of_verify hverify
    have hcurrent : s'.currentAccount? c = some { a with lastLogin := some now.calendar } := by
      rw [Desk.tryPersist_of_stored (a := { a with lastLogin := some now.calendar }) hget] at hs'
      rw [hs']
      exact currentAccount?_of_insert (Sessions.accountOf?_login hlogin) rfl
    rw [listing, hcurrent]
    exact .loggedIn hcurrent (Account.lists_summaries _)
  | @characterCreate name hairStyle hairColor gender attributes a _ _ _ hroom hrewrites =>
    obtain ⟨hsession, hget, hsessions, hstore⟩ := hrewrites.stored hsound
    let x := newCharacter s.config name hairStyle hairColor gender attributes
    let slot := UInt8.ofNat a.characters.length
    have hcurrent : s'.currentAccount? c = some { a with characters := a.characters ++ [x] } := by
      refine currentAccount?_of_insert ?_ (congrArg Storage.accounts hstore)
      rw [hsessions]
      exact hsession
    have hslot : slot.toNat = a.characters.length := Account.toNat_slot hroom
    have hlast : (a.characters ++ [x])[slot.toNat]? = some x := by
      rw [hslot, List.getElem?_concat_length]
    rw [listingAt, hcurrent]
    dsimp only [Option.bind_some]
    rw [hlast]
    refine .created hcurrent ?_ hlast (x.shows_summary slot)
    show (a.characters ++ [x]).length = slot.toNat + 1
    rw [hslot, List.length_append, List.length_singleton]
  | logout => exact .response (by simp) rfl (by simp) (by simp)
  | register => exact .response (by simp) rfl (by simp) (by simp)
  | unregister => exact .response (by simp) rfl (by simp) (by simp)
  | emailChange => exact .response (by simp) rfl (by simp) (by simp)
  | emailGet => exact .response (by simp) rfl (by simp) (by simp)
  | passwordChange => exact .response (by simp) rfl (by simp) (by simp)
  | characterSelect => exact .response (by simp) rfl (by simp) (by simp)
  | characterDelete => exact .response (by simp) rfl (by simp) (by simp)

/-- A meeting is answered with one response, which the characters follow if it tells a success. -/
theorem answer_of_meeting (hsound : s.desk.storage.Sound) {p : HandoffPayload} {on : Timestamp}
    {sessions : Sessions HandoffPayload}
    (heq : s' = { s with
      sessions := sessions.set c (.ofAccount? (Desk.claimMatched on c p s.desk).1)
      desk := (Desk.claimMatched on c p s.desk).2 }) (t : String) :
    ∃ ms, Answer s s' c (some (.reconnect t)) ms ∧
      s'.desk.outbox = s.desk.outbox ++ ms.map (.send c) := by
  rcases Desk.claimMatched_cases on c p s.desk with
    ⟨-, hanswer⟩ | ⟨a, -, -, hanswer⟩ | ⟨a, hfind, -, hanswer⟩ <;> rw [hanswer] at heq
  · refine ⟨[.reconnectResponse .failure], .turnedAway nofun, ?_⟩
    rw [heq]
    rfl
  · refine ⟨[.reconnectResponse .banned], .turnedAway nofun, ?_⟩
    rw [heq]
    rfl
  · have hget := hsound.get?_id hfind
    rw [Desk.tryPersist_of_stored (a := { a with lastLogin := some on }) hget] at heq
    have hcurrent : s'.currentAccount? c = some { a with lastLogin := some on } := by
      rw [heq]
      exact currentAccount?_of_insert (Sessions.accountOf?_set_ofAccount? _ c (some a.id)) rfl
    refine ⟨_, .readmitted hcurrent (Account.lists_summaries _), ?_⟩
    rw [heq]
    rfl

/-- A claim is answered with nothing, or with one response, which the characters follow if it tells a
success. -/
theorem answer_of_claim (hs : s.sessions.Lockstep) (hsound : s.desk.storage.Sound) (now : Moment)
    (draws : List Draw) (c : ConnectionId) (t : String) :
    let s' := s.step (.request now draws c (.reconnect t))
    ∃ ms, Answer s s' c (some (.reconnect t)) ms ∧
      s'.desk.outbox = s.desk.outbox ++ ms.map (.send c) := by
  intro s'
  -- only a meeting reaches the desk, and the desk answers to the connection that claims
  rcases claim_cases hs now draws c t with heq | ⟨-, -, heq⟩ | ⟨p, -, -, heq⟩ <;>
    change s' = _ at heq
  · refine ⟨[], .waiting, ?_⟩
    rw [heq]
    exact (List.append_nil _).symm
  · refine ⟨[], .waiting, ?_⟩
    rw [heq]
    exact (List.append_nil _).symm
  · exact answer_of_meeting hsound heq t

/-- **A frame is answered to the connection that it comes from, and to nobody else**, with the messages
that `Answer` has for what it spells. -/
theorem frame_is_answered_to_its_sender {s : Service Storage} (hs : Reachable s) (now : Moment)
    (draws : List Draw) (c : ConnectionId) (frame : List UInt8) :
    let s' := s.handleFrame now draws c frame
    ∃ ms, Answer s s' c (Json.decode Request frame) ms ∧
      s'.desk.outbox = s.desk.outbox ++ ms.map (.send c) := by
  intro s'
  have hs' : s' = s.handleFrame now draws c frame := rfl
  rcases hdecode : Json.decode Request frame with - | r <;>
    simp only [handleFrame, hdecode] at hs' <;> rw [hs']
  · exact ⟨_, .invalid rfl rfl, rfl⟩
  · by_cases hclaim : ∃ t, r = .reconnect t
    · obtain ⟨t, rfl⟩ := hclaim
      exact answer_of_claim hs.lockstep hs.sound now draws c t
    · have hr : ∀ t, r ≠ .reconnect t := fun t ht => hclaim ⟨t, ht⟩
      rcases s.answered now draws c hr with ⟨status, hne, heq⟩ | ⟨s'', ms, hgranted, heq⟩ <;>
        rw [heq]
      · exact ⟨_, .refusal hr hne, rfl⟩
      · refine ⟨ms, hgranted.answer hs.sound, ?_⟩
        rw [← hgranted.outbox]
        rfl

/-- Somebody who was announced sends a frame that spells his claim; he is sent his characters. -/
theorem announced_client_is_sent_his_characters :
    let dawn : Timestamp := ⟨0, 0, by decide, by decide⟩
    let kay : Character :=
      ⟨"Kay", 0, 1, 2, 3, 0, 0, 100, #v[10, 10, 10, 10, 10, 10], ⟨1⟩, ⟨512, 512⟩⟩
    let shown : CharacterSummary :=
      ⟨0, "Kay", 0, 1, 2, 3, 0, 0, 100, #v[10, 10, 10, 10, 10, 10]⟩
    let ann : Account := ⟨⟨0⟩, "ann", "", "", .normal, [kay], dawn, none⟩
    let frame := "[\"Reconnect\",\"gate\"]".toUTF8.toList
    let s := (create .standard .standard (Storage.ofEdits [.add ann]) .empty).run
      [.connect ⟨5⟩, .announce ⟨1, dawn⟩ "gate" ⟨1⟩]
    let s' := s.handleFrame ⟨2, dawn⟩ [] ⟨5⟩ frame
    ∃ ms, Answer s s' ⟨5⟩ (some (.reconnect "gate")) ms ∧
      s'.desk.outbox = s.desk.outbox ++ ms.map (.send ⟨5⟩) ∧
      s'.desk.outbox
        = [.send ⟨5⟩ (.reconnectResponse .ok), .send ⟨5⟩ (.characterInfo shown)] := by
  intro dawn kay shown ann frame s s'
  have hs : Reachable s :=
    (Reachable.create .standard .standard .empty (Storage.sound_ofEdits [.add ann])).run _
  have hspells : Json.decode Request frame = some (.reconnect "gate") := by decide +kernel
  have hsent : s'.desk.outbox
      = [.send ⟨5⟩ (.reconnectResponse .ok), .send ⟨5⟩ (.characterInfo shown)] := by
    decide +kernel
  obtain ⟨ms, hanswer, houtbox⟩ := frame_is_answered_to_its_sender hs ⟨2, dawn⟩ [] ⟨5⟩ frame
  rw [hspells] at hanswer
  exact Exists.intro ms (And.intro hanswer (And.intro houtbox hsent))

end InMemory

end Service

end Lobby
