/-
Lobby/Proofs/Service/Journal.lean

What is stored is what has been acknowledged.

The responses of a run, read in order, tell what has become of the accounts: a response that tells a
success stands for the change that was asked for, and no other message stands for any.  `journal` is
the list of these changes.  Each event writes to the store what its responses acknowledge and nothing
else (`written_step`); so at the end of a run the accounts are those that the journal makes of the
accounts at the start, on a plain map, however often records were copied and written back in between.

Main result: `stored_is_what_was_acknowledged`.
-/
import Lobby.Proofs.Service.Replies
import Lobby.Proofs.Storage.Changes

namespace Lobby

/-- The owner of the store leaves it alone. -/
def Event.SparesStore : Event → Prop
  | .edit _ => False
  | _ => True

/-! ### What a response acknowledges -/

/-- What a request asks for, of the accounts that its connection is logged in as before and after it is
answered.  What concerns an account that is logged in as is asked for the one before; a login, a
registration or a claim is for the one after. -/
def Request.change? (config : AccountConfig) (now : Moment) (before after : Option AccountId) :
    Request → Option Change
  | login .. => after.map (.amended · (.login now.calendar))
  | logout => none
  | reconnect _ => after.map (.amended · (.login now.calendar))
  | register _ username password email =>
    after.map (.registered · username password email now.calendar)
  | unregister username _ => some (.unregistered username)
  | emailChange email => before.map (.amended · (.email email))
  | emailGet => none
  | passwordChange _ newPassword => before.map (.amended · (.password newPassword))
  | characterCreate name hairStyle hairColor gender attributes =>
    before.map (.amended ·
      (.gain (Service.newCharacter config name hairStyle hairColor gender attributes)))
  | characterSelect _ => none
  | characterDelete slot => before.map (.amended · (.lose slot.toNat))

namespace Service

section

variable {σ : Type} [Backend σ] {s : Service σ} {e : Event} {c : ConnectionId}

/-- What an event stands for if a connection is told a success in it.  An announcement answers the
claim of a connection that has waited. -/
def change? (s : Service σ) (e : Event) (c : ConnectionId) : Option Change :=
  let after := (s.step e).sessions.accountOf? c
  match e with
  | .request now _ _ r => r.change? s.config now (s.sessions.accountOf? c) after
  | .announce now _ _ => after.map (.amended · (.login now.calendar))
  | _ => none

/-- The change that something that is queued acknowledges: a response that tells a success does, and
nothing else. -/
def acknowledged? (s : Service σ) (e : Event) : Delivery → Option Change
  | .send c m => if m.outcome? = some .ok then s.change? e c else none
  | .disconnect .. => none

/-- The changes that are acknowledged in an event. -/
def changes (s : Service σ) (e : Event) : List Change := (s.queued e).filterMap (s.acknowledged? e)

/-- The changes that are acknowledged in a run. -/
def journal (s : Service σ) : List Event → List Change
  | [] => []
  | e :: events => s.changes e ++ (s.step e).journal events

theorem acknowledged?_of_outcome?_ne {m : Message} (h : m.outcome? ≠ some .ok) :
    s.acknowledged? e (.send c m) = none := if_neg h

/-- A refusal acknowledges nothing. -/
theorem changes_of_refusal {m : Message} (hsent : s.queued e = [.send c m])
    (h : m.outcome? ≠ some .ok) : s.changes e = [] := by
  rw [changes, hsent, List.filterMap_cons, acknowledged?_of_outcome?_ne h]
  rfl

/-- A response that tells a success acknowledges a change, and what follows it does not. -/
theorem changes_of_success {m : Message} {rest : List Message}
    (hsent : s.queued e = (m :: rest).map (.send c)) (hok : m.outcome? = some .ok)
    (hrest : ∀ m' ∈ rest, m'.outcome? = none) : s.changes e = (s.change? e c).toList := by
  have hsilent : (rest.map (Delivery.send c)).filterMap (s.acknowledged? e) = [] := by
    rw [List.filterMap_map, List.filterMap_eq_nil_iff]
    intro m' hm'
    refine acknowledged?_of_outcome?_ne ?_
    rw [hrest m' hm']
    exact nofun
  have hresponse : s.acknowledged? e (.send c m) = s.change? e c := if_pos hok
  rw [changes, hsent, List.map_cons, List.filterMap_cons, hresponse, hsilent]
  cases s.change? e c <;> rfl

/-- An event that stands for nothing acknowledges nothing. -/
theorem changes_eq_nil (h : ∀ c, s.change? e c = none) : s.changes e = [] := by
  refine List.filterMap_eq_nil_iff.mpr ?_
  rintro (⟨c, m⟩ | ⟨c, reason⟩) -
  · show (if m.outcome? = some .ok then s.change? e c else none) = none
    rw [h c, ite_self]
  · rfl

end

/-! ### One event -/

variable {s s' : Service Storage} {now : Moment} {draws : List Draw} {c : ConnectionId} {r : Request}
  {ms : List Message} {e : Event}

/-- A record that is written back, changed, makes the change for the account that the connection is
logged in as. -/
theorem Rewrites.written (hst : s.desk.storage.Sound) {a : Account} {x : Amendment}
    (h : Rewrites s s' c a (x.apply a)) (hallowed : s.desk.storage.Allows x) :
    Storage.Written s.desk.storage s'.desk.storage
      ((s.sessions.accountOf? c).map (.amended · x)).toList := by
  -- the copy was made of the record as it is stored now, so that nothing else is written over
  obtain ⟨hsession, hget, -, -⟩ := h.stored hst
  rw [hsession]
  exact .amended hget hallowed h.persisted

/-- What is granted writes what was asked for. -/
theorem Granted.written (hst : s.desk.storage.Sound) (h : Granted s now draws c r s' ms) :
    Storage.Written s.desk.storage s'.desk.storage
      (r.change? s.config now (s.sessions.accountOf? c) (s'.sessions.accountOf? c)).toList := by
  cases h with
  | @login _ _ _ a sessions _ _ _ _ hverify _ hlogin hs' =>
    obtain ⟨-, hget, -⟩ := hst.of_verify hverify
    rw [Desk.tryPersist_of_stored (a := { a with lastLogin := some now.calendar }) hget] at hs'
    rw [hs']
    simp only [Request.change?, Sessions.accountOf?_login hlogin]
    exact Storage.Written.amended (x := .login now.calendar) hget trivial
      (Storage.persist_of_stored hget)
  | logout => exact .kept
  | @register _ _ _ _ id st sessions _ _ _ _ _ hemail hadd hlogin =>
    simp only [Request.change?, Sessions.accountOf?_login hlogin]
    exact .registered hemail hadd
  | unregister _ _ hverify hdelete =>
    obtain ⟨hname, -, -⟩ := hst.of_verify hverify
    exact .unregistered hname hdelete
  | @emailChange email a _ _ hfree hrewrites =>
    exact Rewrites.written (x := .email email) hst hrewrites hfree
  | emailGet => exact .kept
  | @passwordChange _ newPassword a _ _ _ hrewrites =>
    exact Rewrites.written (x := .password newPassword) hst hrewrites trivial
  | @characterCreate name hairStyle hairColor gender attributes a _ _ hfree _ hrewrites =>
    exact Rewrites.written
      (x := .gain (newCharacter s.config name hairStyle hairColor gender attributes))
      hst hrewrites hfree
  | characterSelect => exact .kept
  | @characterDelete slot a _ _ hrewrites =>
    exact Rewrites.written (x := .lose slot.toNat) hst hrewrites trivial

/-- A meeting is answered with a refusal, which writes nothing, or it sets the last login. -/
theorem written_of_meeting (hst : s.desk.storage.Sound) {p : HandoffPayload} {on : Timestamp}
    {sessions : Sessions HandoffPayload}
    (heq : s.step e = { s with
      sessions := sessions.set c (.ofAccount? (Desk.claimMatched on c p s.desk).1)
      desk := (Desk.claimMatched on c p s.desk).2 })
    (hchange : s.change? e c
      = ((s.step e).sessions.accountOf? c).map (.amended · (.login on))) :
    Storage.Written s.desk.storage (s.step e).desk.storage (s.changes e) := by
  rcases Desk.claimMatched_cases on c p s.desk with
    ⟨-, hanswer⟩ | ⟨a, -, -, hanswer⟩ | ⟨a, hfind, -, hanswer⟩ <;> rw [hanswer] at heq
  · have hsent : s.queued e = [.send c (.reconnectResponse .failure)] := queued_eq (by rw [heq]; rfl)
    rw [changes_of_refusal hsent nofun, heq]
    exact .kept
  · have hsent : s.queued e = [.send c (.reconnectResponse .banned)] := queued_eq (by rw [heq]; rfl)
    rw [changes_of_refusal hsent nofun, heq]
    exact .kept
  · have hget := hst.get?_id hfind
    rw [Desk.tryPersist_of_stored (a := { a with lastLogin := some on }) hget] at heq
    have hsent : s.queued e
        = (Message.reconnectResponse .ok :: a.summaries.map .characterInfo).map (.send c) :=
      queued_eq (by rw [heq]; rfl)
    have hafter : (s.step e).sessions.accountOf? c = some a.id := by
      rw [heq]
      exact Sessions.accountOf?_set_ofAccount? sessions c (some a.id)
    rw [changes_of_success hsent rfl fun m => outcome?_of_mem_infos, hchange, hafter, heq]
    exact Storage.Written.amended (x := .login on) hget trivial (Storage.persist_of_stored hget)

/-- A request that is refused acknowledges nothing, and one that is granted what was asked for. -/
theorem changes_request_cases (s : Service Storage) (now : Moment) (draws : List Draw)
    (c : ConnectionId) (hr : ∀ t, r ≠ .reconnect t) :
    (∃ status, s.step (.request now draws c r) = s.reply c (r.response status) ∧
      s.changes (.request now draws c r) = []) ∨
    ∃ s' ms, Granted s now draws c r s' ms ∧
      s.step (.request now draws c r) = s'.replyAll c ms ∧
      s.changes (.request now draws c r)
        = (r.change? s.config now (s.sessions.accountOf? c) (s'.sessions.accountOf? c)).toList := by
  rcases s.step_request_cases now draws c hr with
    ⟨status, hne, hstep, hsent⟩ | ⟨s', ms, hgranted, hstep, hsent⟩
  · have hrefused : (r.response status).outcome? ≠ some .ok := by
      rw [r.outcome?_response]
      exact fun h => hne (Option.some.inj h)
    exact .inl ⟨status, hstep, changes_of_refusal hsent hrefused⟩
  · obtain ⟨m, rest, rfl, -, hok, hrest⟩ := hgranted.messages
    refine .inr ⟨s', _, hgranted, hstep, ?_⟩
    rw [changes_of_success hsent hok hrest]
    simp only [change?, hstep]
    rfl

/-- What is granted or refused writes what its response acknowledges. -/
theorem written_request (hst : s.desk.storage.Sound) (now : Moment) (draws : List Draw)
    (c : ConnectionId) {r : Request} (hr : ∀ t, r ≠ .reconnect t) :
    Storage.Written s.desk.storage (s.step (.request now draws c r)).desk.storage
      (s.changes (.request now draws c r)) := by
  rcases s.changes_request_cases now draws c hr with
    ⟨status, hstep, hnone⟩ | ⟨s', ms, hgranted, hstep, hone⟩
  · rw [hnone, hstep]
    exact .kept
  · rw [hone, hstep]
    show Storage.Written s.desk.storage s'.desk.storage _
    exact hgranted.written hst

/-- An event that leaves the desk alone writes nothing, and nobody is told anything. -/
theorem written_of_silence (hdesk : (s.step e).desk = s.desk) :
    Storage.Written s.desk.storage (s.step e).desk.storage (s.changes e) := by
  rw [changes, queued, hdesk, List.drop_length]
  exact .kept

/-- **An event writes what its responses acknowledge, and nothing else.** -/
theorem written_step (hs : s.sessions.Lockstep) (hst : s.desk.storage.Sound)
    (hspare : e.SparesStore) :
    Storage.Written s.desk.storage (s.step e).desk.storage (s.changes e) := by
  -- most events stand for nothing, and keep the store
  have hsilent : (∀ c, s.change? e c = none) → (s.step e).desk.storage = s.desk.storage →
      Storage.Written s.desk.storage (s.step e).desk.storage (s.changes e) := by
    intro hchange hkept
    rw [changes_eq_nil hchange, hkept]
    exact .kept
  cases e with
  | request now draws c r =>
    -- a claim is the one request that may be answered with nothing
    by_cases hclaim : ∃ t, r = .reconnect t
    · obtain ⟨t, rfl⟩ := hclaim
      rcases claim_cases hs now draws c t with heq | ⟨-, -, heq⟩ | ⟨p, -, -, heq⟩
      · exact written_of_silence (by rw [heq])
      · exact written_of_silence (by rw [heq])
      · exact written_of_meeting hst heq rfl
    · exact written_request hst now draws c fun t ht => hclaim ⟨t, ht⟩
  | invalid c => exact hsilent (fun _ => rfl) rfl
  | connect c =>
    refine hsilent (fun _ => rfl) ?_
    rcases h : s.sessions.connect c with x | sessions <;> simp only [step, Service.connect, h] <;> rfl
  | disconnect c => exact hsilent (fun _ => rfl) rfl
  | announce now t a =>
    rcases announce_cases hs now t a with ⟨-, heq⟩ | ⟨c, -, heq⟩
    · exact written_of_silence (by rw [heq])
    · exact written_of_meeting hst heq rfl
  | sweep now => exact hsilent (fun _ => rfl) (storage_sweep hs now)
  | collect => exact hsilent (fun _ => rfl) rfl
  | edit e => exact hspare.elim
  | host servers => exact hsilent (fun _ => rfl) rfl

/-! ### Runs -/

/-- A run of events that spare the store writes what its journal has. -/
theorem writes_run (hs : s.sessions.Lockstep) (hst : s.desk.storage.Indexed) {events : List Event}
    (hspare : ∀ e ∈ events, e.SparesStore) :
    Storage.Writes s.desk.storage (s.run events).desk.storage (s.journal events) := by
  -- lockstep and the index are what one event leaves for the next one
  induction events generalizing s with
  | nil => exact .nil _
  | cons e events ih =>
    have hwritten := written_step hs hst.toSound (hspare e (List.mem_cons_self ..))
    refine .cons hwritten (ih (lockstep_step hs e) (hwritten.indexed hst) ?_)
    exact fun e' he' => hspare e' (List.mem_cons_of_mem _ he')

/-- **What is stored is what has been acknowledged.**  A service is started over accounts that were
added to the store, and nobody but the service writes to the store afterwards.  Then, after any
events:

* the records are those that the changes of the journal, which the responses acknowledge, make of the
  records at the start, one after the other on a plain map;
* a new account has a number above those of all accounts that were there at the start and of all that
  were made before it. -/
theorem stored_is_what_was_acknowledged (config : AccountConfig) (rendezvous : RendezvousConfig)
    (accounts : List Account) (servers : MapTable) {events : List Event}
    (hspare : ∀ e ∈ events, e.SparesStore) :
    let start := create config rendezvous (Storage.ofEdits (accounts.map .add)) servers
    let given := (start.journal events).filterMap Change.newId?
    (start.run events).desk.storage.accounts.get?
        = (start.journal events).foldl Change.apply start.desk.storage.accounts.get? ∧
      (∀ a ∈ given, ∀ b r, start.desk.storage.accounts.get? b = some r → b.val < a.val) ∧
      given.Pairwise (·.val < ·.val) := by
  intro start given
  have hst : start.desk.storage.Indexed := Storage.indexed_ofEdits_add accounts
  have hs : start.sessions.Lockstep := Sessions.lockstep_empty _
  have hwrites := writes_run hs hst hspare
  obtain ⟨habove, hincrease⟩ := hwrites.newIds
  refine ⟨hwrites.records hst, ?_, hincrease⟩
  intro a ha b r hb
  exact Nat.lt_of_le_of_lt (hst.given b r hb) (habove a ha)

/-- Somebody who was announced claims and deletes a character; his failure to log in a second time
acknowledges nothing. -/
theorem claim_and_deletion_are_stored :
    let dawn : Timestamp := ⟨0, 0, by decide, by decide⟩
    let kay : Character :=
      ⟨"Kay", 0, 1, 2, 3, 0, 0, 100, #v[10, 10, 10, 10, 10, 10], ⟨1⟩, ⟨512, 512⟩⟩
    let ann : Account := ⟨⟨0⟩, "ann", "", "", .normal, [kay], dawn, none⟩
    let start := create .standard .standard (Storage.ofEdits ([ann].map .add)) .empty
    let events : List Event :=
      [.connect ⟨5⟩, .request ⟨1, dawn⟩ [] ⟨5⟩ (.reconnect "gate"), .announce ⟨2, dawn⟩ "gate" ⟨1⟩,
        .request ⟨3, dawn⟩ [] ⟨5⟩ (.login 0 "ann" ""),
        .request ⟨4, dawn⟩ [] ⟨5⟩ (.characterDelete 0)]
    start.journal events = [.amended ⟨1⟩ (.login dawn), .amended ⟨1⟩ (.lose 0)] ∧
      (start.run events).desk.storage.accounts.get?
        = (start.journal events).foldl Change.apply start.desk.storage.accounts.get? := by
  intro dawn kay ann start events
  have hjournal : start.journal events = [.amended ⟨1⟩ (.login dawn), .amended ⟨1⟩ (.lose 0)] := by
    decide +kernel
  have hspare : ∀ e ∈ events, e.SparesStore := by simp [events, Event.SparesStore]
  have hstart : create .standard .standard (Storage.ofEdits ([ann].map .add)) .empty = start := rfl
  obtain ⟨hrecords, -, -⟩ :=
    stored_is_what_was_acknowledged .standard .standard [ann] .empty hspare
  rw [hstart] at hrecords
  exact And.intro hjournal hrecords

end Service

end Lobby
