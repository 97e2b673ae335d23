/-
Lobby/Proofs/Service/Deletion.lean

A deleted account stays dead.

Sessions and payloads refer to an account by its number, and nobody tells them when it is deleted.  That
is safe because a number is never given twice: an account is `Dead` in a store if it has no record and
its number has been given, and no edit ever brings it back (`Dead.edited`), so that no event does
(`dead_step`, `dead_run`).  Whoever still refers to a dead account finds nothing when it looks the
account up, which everybody does anew: a session is told that it has no login
(`step_of_no_account`), and a claim is turned away (`turned_away_of_claim`,
`turned_away_of_announcement`).
-/
import Lobby.Proofs.Service.Confinement

namespace Lobby

/-! ### The store -/

namespace Storage

/-- An account is dead: it has no record, and its number has been given. -/
structure Dead (st : Storage) (a : AccountId) : Prop where
  gone : st.accounts.get? a = none
  given : a.val ≤ st.lastId

variable {st st' : Storage} {a id : AccountId} {r : Account}

/-- A new account is not a dead one. -/
theorem Dead.ne_of_add (h : st.Dead a) (hadd : st.add r = .ok (id, st')) : id ≠ a := by
  -- it gets the number after the last one, and the dead one has a number up to that
  obtain ⟨-, rfl, -⟩ := add_eq hadd
  rintro rfl
  exact absurd h.given (Nat.not_succ_le_self _)

/-- The record of a dead account is not written back. -/
theorem Dead.persist (h : st.Dead a) (hid : r.id = a) : st.persist r = .error (.notFound a) := by
  subst hid
  simp only [Storage.persist, h.gone]

theorem Dead.add (h : st.Dead a) (hadd : st.add r = .ok (id, st')) : st'.Dead a := by
  have hne := h.ne_of_add hadd
  obtain ⟨-, -, rfl⟩ := add_eq hadd
  refine ⟨?_, Nat.le_succ_of_le h.given⟩
  show (st.accounts.insert id _).get? a = none
  rw [KeyedList.get?_insert, if_neg hne, h.gone]

theorem Dead.delete (h : st.Dead a) (hdelete : st.delete id = .ok (r, st')) : st'.Dead a := by
  obtain ⟨-, rfl⟩ := delete_eq hdelete
  refine ⟨?_, h.given⟩
  show (st.accounts.erase id).get? a = none
  rw [KeyedList.get?_erase, h.gone, ite_self]

/-- **Nothing that is done to a store brings a dead account back.** -/
theorem Dead.edited (h : st.Dead a) (hedited : Edited st st') : st'.Dead a := by
  rcases hedited with rfl | ⟨e, he⟩
  · exact h
  · cases e with
    | add r =>
      obtain ⟨⟨id, st''⟩, hadd, rfl⟩ := exists_of_map_eq_ok he
      exact h.add hadd
    | delete id =>
      obtain ⟨⟨r, st''⟩, hdelete, rfl⟩ := exists_of_map_eq_ok he
      exact h.delete hdelete
    | persist r =>
      have hpersist : st.persist r = .ok st' := he
      obtain ⟨⟨old, hold⟩, rfl⟩ := persist_eq hpersist
      refine ⟨?_, h.given⟩
      -- a record is written back in the place of another, and the dead account has none
      have hne : r.id ≠ a := by
        rintro rfl
        rw [h.gone] at hold
        cases hold
      show (st.accounts.insert r.id r).get? a = none
      rw [KeyedList.get?_insert, if_neg hne, h.gone]

/-- Whoever is deleted is dead. -/
theorem dead_of_delete (hst : st.Sound) (h : st.delete a = .ok (r, st')) : st'.Dead a := by
  obtain ⟨hr, rfl⟩ := delete_eq h
  refine ⟨?_, hst.given a r hr⟩
  show (st.accounts.erase a).get? a = none
  rw [KeyedList.get?_erase, if_pos rfl]

end Storage

/-- A request is about the account that the connection is logged in as. -/
def Request.isForAccount : Request → Bool
  | emailChange _ => true
  | emailGet => true
  | passwordChange .. => true
  | characterCreate .. => true
  | characterSelect _ => true
  | characterDelete _ => true
  | _ => false

namespace Service

/-! ### Runs -/

section

variable {s : Service Storage} {a : AccountId}

theorem dead_step (hs : s.sessions.Lockstep) (h : s.desk.storage.Dead a) (e : Event) :
    (s.step e).desk.storage.Dead a := h.edited (stepped hs e).edited

theorem dead_run (hs : s.sessions.Lockstep) (h : s.desk.storage.Dead a) (events : List Event) :
    (s.run events).desk.storage.Dead a := by
  induction events generalizing s with
  | nil => exact h
  | cons e events ih => exact ih (lockstep_step hs e) (dead_step hs h e)

/-- A deletion that is acknowledged has been carried out on the account of the name. -/
theorem dead_of_unregister (hs : Reachable s) {c : ConnectionId} {now : Moment} {draws : List Draw}
    {username password : String} {r : Account}
    (hr : Backend.findByName s.desk.storage username = some r)
    (hok : .send c (.unregisterResponse .ok)
      ∈ s.queued (.request now draws c (.unregister username password))) :
    (s.step (.request now draws c (.unregister username password))).desk.storage.Dead r.id := by
  rcases s.step_request_cases now draws c (r := .unregister username password) nofun with
    ⟨status, hne, -, hsent⟩ | ⟨s', ms, hgranted, hstep, -⟩
  · rw [hsent] at hok
    cases List.mem_singleton.mp hok
    exact absurd rfl hne
  · rw [hstep]
    cases hgranted with
    | @unregister _ _ x _ st _ _ hverify hdelete =>
      -- the account of the credentials is that of the name
      have hx : Backend.findByName s.desk.storage username = some x :=
        (Option.filter_eq_some_iff.mp hverify).1
      obtain rfl : r = x := Option.some.inj (hr.symm.trans hx)
      exact Storage.dead_of_delete hs.sound hdelete

end

/-! ### Whoever still refers to a dead account -/

section

variable {σ : Type} [Backend σ] {s s' : Service σ} {c : ConnectionId}

/-- Whoever asks for something to do with an account and has none is told so. -/
theorem step_of_no_account (h : s.currentAccount? c = none) {r : Request}
    (hr : r.isForAccount = true) (now : Moment) (draws : List Draw) :
    s.step (.request now draws c r) = s.reply c (r.response .noLogin) := by
  cases r with
  | emailChange email =>
    simp only [step, handle, changeEmail, h]
    rfl
  | emailGet =>
    simp only [step, handle, h]
    rfl
  | passwordChange oldPassword newPassword =>
    simp only [step, handle, changePassword, h]
    rfl
  | characterCreate name hairStyle hairColor gender attributes =>
    simp only [step, handle, createCharacter, h]
    rfl
  | characterSelect slot =>
    -- the connection is not logged in, or as an account that is not stored
    rcases hc : s.sessions.accountOf? c with - | a
    · simp only [step, handle, Desk.issue, Desk.select, hc]
      rfl
    · have hgone : Backend.findById s.desk.storage a = none := by
        simpa [currentAccount?, hc] using h
      simp only [step, handle, Desk.issue, Desk.select, hc, hgone]
      rfl
  | characterDelete slot =>
    simp only [step, handle, deleteCharacter, h]
    rfl
  | login | logout | reconnect | register | unregister => cases hr

/-- A claim is turned away: the connection is told of a failure, which is all that happens at the desk,
and its session is logged out. -/
structure TurnedAway (s s' : Service σ) (c : ConnectionId) : Prop where
  desk : s'.desk = s.desk.send c (.reconnectResponse .failure)
  session : s'.sessions.get? c = some .unauthenticated

theorem claimMatched_of_gone {d : Desk σ} {p : HandoffPayload}
    (h : Backend.findById d.storage p.account = none) (on : Timestamp) (c : ConnectionId) :
    Desk.claimMatched on c p d = (none, d.send c (.reconnectResponse .failure)) := by
  simp only [Desk.claimMatched, Desk.admitted, h]

/-- A claim is turned away by a payload for an account that is gone. -/
theorem turned_away_of_claim (hs : s.sessions.Lockstep)
    (hc : s.sessions.get? c = some .unauthenticated) {t : String} {p : HandoffPayload}
    (hp : s.sessions.rendezvous.payload? t = some p)
    (hgone : Backend.findById s.desk.storage p.account = none) (now : Moment) (draws : List Draw) :
    TurnedAway s (s.step (.request now draws c (.reconnect t))) c := by
  obtain ⟨hdesk, hget, -⟩ := claim_of_payload hs hc hp now draws
  have hself := hget c
  rw [if_pos rfl, claimMatched_of_gone hgone] at hself
  rw [claimMatched_of_gone hgone] at hdesk
  exact ⟨hdesk, hself⟩

/-- Whoever waits is turned away by an announcement of an account that is gone. -/
theorem turned_away_of_announcement (hs : s.sessions.Lockstep) {t : String}
    (ht : s.sessions.rendezvous.claimant? t = some c) {a : AccountId}
    (hgone : Backend.findById s.desk.storage a = none) (now : Moment) :
    TurnedAway s (s.step (.announce now t a)) c := by
  have hanswer := claimMatched_of_gone (p := ⟨a, none⟩) hgone now.calendar c
  rw [step_announce_of_claimant hs ht now a, hanswer]
  refine ⟨rfl, ?_⟩
  show ((s.sessions.leave now.steady t ⟨a, none⟩).set c .unauthenticated).get? c = _
  rw [Sessions.get?_set, if_pos rfl]

end

/-- **A deleted account stays dead for everyone who still refers to it.**  In any state that events lead
to, somebody deletes an account with its credentials, and the deletion is acknowledged.  Then, after any
further events:

* the account has no record, a new account is given another number, and no record is written back under
  its number;
* a session that is still logged in as the account is told that it has no login, whatever it asks for
  that is about its account, and nothing else happens;
* a claim on a token with a payload that names the account is turned away, and so is whoever waits on a
  token on which the account is announced.

Sessions, tickets and announcements are confined to the record of their account, before the deletion and
after it. -/
theorem deleted_account_stays_dead {s : Service Storage} (hs : Reachable s) {c : ConnectionId}
    {now : Moment} {draws : List Draw} {username password : String} {r : Account}
    (hr : Backend.findByName s.desk.storage username = some r)
    (hok : .send c (.unregisterResponse .ok)
      ∈ s.queued (.request now draws c (.unregister username password))) (later : List Event) :
    let s' := (s.step (.request now draws c (.unregister username password))).run later
    (s'.desk.storage.accounts.get? r.id = none ∧
      (∀ x id st, s'.desk.storage.add x = .ok (id, st) → id ≠ r.id) ∧
      ∀ x : Account, x.id = r.id → s'.desk.storage.persist x = .error (.notFound r.id)) ∧
    (∀ d, s'.sessions.get? d = some (.authenticated r.id) →
      ∀ now draws x, x.isForAccount = true →
        s'.step (.request now draws d x) = s'.reply d (x.response .noLogin)) ∧
    (∀ d t p, s'.sessions.get? d = some .unauthenticated →
      s'.sessions.rendezvous.payload? t = some p → p.account = r.id →
      ∀ now draws, TurnedAway s' (s'.step (.request now draws d (.reconnect t))) d) ∧
    (∀ d t, s'.sessions.rendezvous.claimant? t = some d →
      ∀ now, TurnedAway s' (s'.step (.announce now t r.id)) d) ∧
    s.Confining ∧ s'.Confining := by
  intro s'
  have hs' : Reachable s' := (hs.step _).run later
  have hdead : s'.desk.storage.Dead r.id :=
    dead_run (hs.step _).lockstep (dead_of_unregister hs hr hok) later
  have hgone : Backend.findById s'.desk.storage r.id = none := hdead.gone
  refine ⟨⟨hdead.gone, fun x id st => hdead.ne_of_add, fun x => hdead.persist⟩, ?_, ?_, ?_,
    confining hs, confining hs'⟩
  · intro d hd now draws x hx
    have hnone : s'.currentAccount? d = none := (currentAccount?_eq hd).trans hdead.gone
    exact step_of_no_account hnone hx now draws
  · intro d t p hd hp hnamed now draws
    rw [← hnamed] at hgone
    exact turned_away_of_claim hs'.lockstep hd hp hgone now draws
  · intro d t ht now
    exact turned_away_of_announcement hs'.lockstep ht hgone now

/-- An account is deleted while somebody is logged in as it and somebody else waits for it, and is made
anew under its name: the one has no login, and the other is turned away. -/
theorem old_session_of_new_namesake :
    let dawn : Timestamp := ⟨0, 0, by decide, by decide⟩
    let anna : Account := .create "anna" "secret" "anna@example.net" dawn
    let s := (create .standard .standard (Storage.ofEdits [.add anna]) .empty).run
      [.connect ⟨5⟩, .connect ⟨6⟩, .connect ⟨7⟩,
        .request ⟨1, dawn⟩ [] ⟨6⟩ (.login 1 "anna" "secret"),
        .request ⟨2, dawn⟩ [] ⟨7⟩ (.reconnect "gate")]
    let s' := (s.step (.request ⟨3, dawn⟩ [] ⟨5⟩ (.unregister "anna" "secret"))).run
      [.request ⟨4, dawn⟩ [] ⟨5⟩ (.register 1 "anna" "secret" "anna@example.net")]
    s'.sessions.get? ⟨5⟩ = some (.authenticated ⟨2⟩) ∧
      s'.desk.storage.accounts.get? ⟨1⟩ = none ∧
      s'.step (.request ⟨5, dawn⟩ [] ⟨6⟩ .emailGet)
        = s'.reply ⟨6⟩ (.emailGetResponse .noLogin none) ∧
      TurnedAway s' (s'.step (.announce ⟨6, dawn⟩ "gate" ⟨1⟩)) ⟨7⟩ := by
  intro dawn anna s s'
  have hs : Reachable s := (Reachable.create _ _ _ (Storage.sound_ofEdits [.add anna])).run _
  obtain ⟨r, hname, hid⟩ : ∃ r, Backend.findByName s.desk.storage "anna" = some r ∧ r.id = ⟨1⟩ :=
    ⟨{ anna with id := ⟨1⟩, lastLogin := some dawn }, by decide +kernel, rfl⟩
  have hok : .send ⟨5⟩ (.unregisterResponse .ok)
      ∈ s.queued (.request ⟨3, dawn⟩ [] ⟨5⟩ (.unregister "anna" "secret")) := by decide +kernel
  obtain ⟨⟨hgone, -, -⟩, hsession, -, hwaits, -, -⟩ := deleted_account_stays_dead hs hname hok
    [.request ⟨4, dawn⟩ [] ⟨5⟩ (.register 1 "anna" "secret" "anna@example.net")]
  have hrun : (s.step (.request ⟨3, dawn⟩ [] ⟨5⟩ (.unregister "anna" "secret"))).run
      [.request ⟨4, dawn⟩ [] ⟨5⟩ (.register 1 "anna" "secret" "anna@example.net")] = s' := rfl
  rw [hid, hrun] at hgone hsession hwaits
  have hnew : s'.sessions.get? ⟨5⟩ = some (.authenticated ⟨2⟩) := by decide +kernel
  have hold : s'.sessions.get? ⟨6⟩ = some (.authenticated ⟨1⟩) := by decide +kernel
  have hgate : s'.sessions.rendezvous.claimant? "gate" = some ⟨7⟩ := by decide +kernel
  exact And.intro hnew (And.intro hgone (And.intro
    (hsession ⟨6⟩ hold ⟨5, dawn⟩ [] .emailGet rfl) (hwaits ⟨7⟩ "gate" hgate ⟨6, dawn⟩)))

end Service

end Lobby
