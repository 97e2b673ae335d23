/-
Lobby/Proofs/Handoff.lean

What the handoff desk does when it is asked.

Whatever the desk is asked, it does one of a few things, and they are said here once: a meeting is
answered with a refusal or with an admission (`claimMatched_cases`), and a ticket is refused or
issued (`issue_cases`).  A fresh token is one on which nobody waits, so that the payload of a ticket
meets nobody and the desk is not asked about it.
-/
import Lobby.Handoff
import Lobby.Proofs.Session.Effects
import Lobby.Proofs.Storage.Edits

namespace Lobby

namespace Desk

variable {σ : Type} {d : Desk σ}

/-! ### What is queued -/

/-- Queues messages for one connection. -/
def sendAll (d : Desk σ) (c : ConnectionId) (ms : List Message) : Desk σ :=
  { d with outbox := d.outbox ++ ms.map (.send c) }

theorem send_eq_sendAll (d : Desk σ) (c : ConnectionId) (m : Message) :
    d.send c m = d.sendAll c [m] := rfl

theorem sendAll_sendAll (d : Desk σ) (c : ConnectionId) (ms later : List Message) :
    (d.sendAll c ms).sendAll c later = d.sendAll c (ms ++ later) := by
  show { d with outbox := (d.outbox ++ ms.map _) ++ later.map _ } = _
  rw [List.append_assoc, ← List.map_append]
  rfl

/-- The characters of an account are queued behind what is queued already. -/
theorem sendCharacters_eq (d : Desk σ) (c : ConnectionId) (a : Account) :
    d.sendCharacters c a = d.sendAll c (a.summaries.map .characterInfo) := by
  simp only [sendCharacters]
  generalize a.summaries = summaries
  induction summaries generalizing d with
  | nil =>
    show d = { d with outbox := d.outbox ++ [] }
    rw [List.append_nil]
  | cons x xs ih =>
    rw [List.foldl_cons, ih, send_eq_sendAll, sendAll_sendAll]
    rfl

/-- The end of a wait does not concern the store. -/
theorem storage_tell [Backend σ] (now : Timestamp)
    (expired : List (Expiry ConnectionId HandoffPayload)) (d : Desk σ) :
    (expired.foldl (Sessions.tell (sink now)) d).storage = d.storage := by
  induction expired generalizing d with
  | nil => rfl
  | cons x xs ih =>
    rw [List.foldl_cons, ih]
    obtain ⟨t, c | p⟩ := x <;> rfl

variable [Backend σ]

/-! ### Meetings -/

/-- Writing back is an edit of the store, whether it is refused or not. -/
theorem tryPersist_eq (d : Desk σ) (r : Account) :
    d.tryPersist r = { d with storage := (Edit.persist r).apply d.storage } := by
  have hattempt : (Edit.persist r).attempt d.storage = Backend.persist d.storage r := rfl
  simp only [tryPersist, Edit.apply, hattempt]
  rcases Backend.persist d.storage r with x | st <;> rfl

theorem edited_tryPersist (d : Desk σ) (a : Account) :
    Edited d.storage (d.tryPersist a).storage := by
  rcases h : Backend.persist d.storage a with x | st <;> simp only [tryPersist, h]
  · exact .refl _
  · exact edited_persist h

theorem outbox_tryPersist (d : Desk σ) (a : Account) : (d.tryPersist a).outbox = d.outbox := by
  simp only [tryPersist]
  split <;> rfl

/-- The store in memory takes a record of an account that it keeps. -/
theorem tryPersist_of_stored {d : Desk Storage} {a old : Account}
    (h : d.storage.accounts.get? a.id = some old) :
    d.tryPersist a
      = { d with storage := { d.storage with accounts := d.storage.accounts.insert a.id a } } := by
  have hpersist : Backend.persist d.storage a
      = .ok { d.storage with accounts := d.storage.accounts.insert a.id a } :=
    Storage.persist_of_stored h
  simp only [tryPersist, hpersist]

/-- The desk answers for a meeting with a refusal, which is all that it queues, if the account that the
payload names is gone or banned.  Otherwise it admits the account: it sets the last login and queues
the list of the characters. -/
theorem claimMatched_cases (now : Timestamp) (c : ConnectionId) (p : HandoffPayload)
    (d : Desk σ) :
    (Backend.findById d.storage p.account = none ∧
      claimMatched now c p d = (none, d.send c (.reconnectResponse .failure))) ∨
    (∃ a, Backend.findById d.storage p.account = some a ∧ a.isBanned = true ∧
      claimMatched now c p d = (none, d.send c (.reconnectResponse .banned))) ∨
    ∃ a, Backend.findById d.storage p.account = some a ∧ a.isBanned = false ∧
      claimMatched now c p d
        = (some a.id, (d.tryPersist { a with lastLogin := some now }).sendAll c
            (.reconnectResponse .ok :: a.summaries.map .characterInfo)) := by
  rcases hfind : Backend.findById d.storage p.account with - | a
  · refine .inl ⟨rfl, ?_⟩
    simp only [claimMatched, admitted, hfind]
  · cases hban : a.isBanned
    · refine .inr (.inr ⟨a, rfl, hban, ?_⟩)
      have hadmitted : d.admitted p = .ok a := by simp [admitted, hfind, hban]
      simp only [claimMatched, hadmitted]
      rw [sendCharacters_eq, send_eq_sendAll, sendAll_sendAll]
      rfl
    · refine .inr (.inl ⟨a, rfl, hban, ?_⟩)
      have hbanned : d.admitted p = .error .banned := by simp [admitted, hfind, hban]
      simp only [claimMatched, hbanned]

/-- A meeting is answered without more than one write to the store. -/
theorem edited_claimMatched (now : Timestamp) (c : ConnectionId) (p : HandoffPayload)
    (d : Desk σ) : Edited d.storage (claimMatched now c p d).2.storage := by
  rcases claimMatched_cases now c p d with ⟨-, heq⟩ | ⟨a, -, -, heq⟩ | ⟨a, -, -, heq⟩ <;> rw [heq]
  · exact .refl _
  · exact .refl _
  · exact edited_tryPersist d _

end Desk

/-! ### Tickets -/

/-- Nobody waits on a fresh token, and it was drawn. -/
theorem Rendezvous.freshToken?_eq_some {γ π : Type} {r : Rendezvous γ π} {draws : List Draw}
    {t : String} (h : r.freshToken? draws = some t) :
    r.entries.get? t = none ∧ ∃ d ∈ draws, d.token = t := by
  obtain ⟨d, hd, rfl⟩ := List.mem_map.mp (List.mem_of_find?_eq_some h)
  have hfree : (!r.contains d.token) = true := List.find?_some (p := fun t => !r.contains t) h
  refine ⟨?_, d, hd, rfl⟩
  rw [Bool.not_eq_true'] at hfree
  exact Option.isNone_iff_eq_none.mp (Option.isSome_eq_false_iff.mp hfree)

theorem HandoffError.status_ne_ok (e : HandoffError) : e.status ≠ .ok := by
  cases e <;> exact nofun

namespace Desk

variable {σ : Type} [Backend σ] {d d' : Desk σ}

/-- Everything that a ticket needs is there: the connection is logged in as an account that is stored and
has a character in the slot, and a server hosts the character's map. -/
structure Selects (d : Desk σ) (s : Sessions HandoffPayload) (c : ConnectionId) (slot : UInt8)
    (chosen : Selection) : Prop where
  session : s.get? c = some (.authenticated chosen.holder)
  account : Backend.findById d.storage chosen.holder = some chosen.account
  character : chosen.account.characters[slot.toNat]? = some chosen.character
  server : d.servers.resolve chosen.character.map = some chosen.server

/-- What stands in the way of a ticket: the first thing that is missing. -/
inductive Obstacle (d : Desk σ) (s : Sessions HandoffPayload) (c : ConnectionId) (slot : UInt8) :
    HandoffError → Prop where
  | notLoggedIn : s.accountOf? c = none → Obstacle d s c slot (.notLoggedIn c)
  | unknownAccount {a : AccountId} :
      s.get? c = some (.authenticated a) → Backend.findById d.storage a = none →
      Obstacle d s c slot (.unknownAccount a)
  | noSuchCharacter {a : AccountId} {r : Account} :
      s.get? c = some (.authenticated a) → Backend.findById d.storage a = some r →
      r.characters.length ≤ slot.toNat → Obstacle d s c slot (.noSuchCharacter a slot)
  | noServerForMap {a : AccountId} {r : Account} {x : Character} :
      s.get? c = some (.authenticated a) → Backend.findById d.storage a = some r →
      r.characters[slot.toNat]? = some x → d.servers.resolve x.map = none →
      Obstacle d s c slot (.noServerForMap x.map)

/-- Something stands in the way of a ticket, or everything that it needs is there. -/
theorem select_cases (d : Desk σ) (s : Sessions HandoffPayload) (c : ConnectionId) (slot : UInt8) :
    (∃ e, Obstacle d s c slot e ∧ d.select s c slot = .error e) ∨
      ∃ chosen, Selects d s c slot chosen ∧ d.select s c slot = .ok chosen := by
  rcases hholder : s.accountOf? c with - | a
  · refine .inl ⟨_, .notLoggedIn hholder, ?_⟩
    simp only [select, hholder]
  · have hsession := Sessions.accountOf?_eq_some_iff.mp hholder
    rcases hfind : Backend.findById d.storage a with - | r
    · refine .inl ⟨_, .unknownAccount hsession hfind, ?_⟩
      simp only [select, hholder, hfind]
    · rcases hslot : r.characters[slot.toNat]? with - | x
      · have hbeyond : r.characters.length ≤ slot.toNat := List.getElem?_eq_none_iff.mp hslot
        refine .inl ⟨_, .noSuchCharacter hsession hfind hbeyond, ?_⟩
        simp only [select, hholder, hfind, hslot]
      · rcases hserver : d.servers.resolve x.map with - | server
        · refine .inl ⟨_, .noServerForMap hsession hfind hslot hserver, ?_⟩
          simp only [select, hholder, hfind, hslot, hserver]
        · refine .inr ⟨⟨a, r, x, server⟩, ⟨hsession, hfind, hslot, hserver⟩, ?_⟩
          simp only [select, hholder, hfind, hslot, hserver]

/-- What is selected is all that a ticket needs. -/
theorem select_eq_ok_iff {s : Sessions HandoffPayload} {c : ConnectionId} {slot : UInt8}
    {chosen : Selection} : d.select s c slot = .ok chosen ↔ Selects d s c slot chosen := by
  constructor
  · intro h
    rcases d.select_cases s c slot with ⟨e, -, hselect⟩ | ⟨chosen', hchosen, hselect⟩ <;>
      rw [h] at hselect <;> cases hselect
    exact hchosen
  · intro h
    have hholder := Sessions.accountOf?_eq_some_iff.mpr h.session
    simp only [select, hholder, h.account, h.character, h.server]

/-- What the other servers are told about a ticket. -/
def announcements (chosen : Selection) (t : String) : List Announcement :=
  [.game t chosen.character.name chosen.character.map,
    .chat t chosen.character.name chosen.account.level]

/-- A ticket is issued for what is selected: its payload is left on the fresh token, and the other
servers are told. -/
theorem issue_eq_ok {draws : List Draw} {s : Sessions HandoffPayload} {c : ConnectionId} {slot : UInt8}
    {chosen : Selection} {t : String} (hselect : d.select s c slot = .ok chosen)
    (hfresh : s.rendezvous.freshToken? draws = some t) (now : Nat) (wall : Timestamp) :
    d.issue now wall draws s c slot
      = .ok (⟨t, chosen.server, d.chatServer⟩,
          s.leave now t ⟨chosen.holder, some chosen.character.name⟩,
          { d with announced := d.announced ++ announcements chosen t }) := by
  -- the token is fresh, so that nobody meets the payload
  have hfree : s.rendezvous.claimant? t = none :=
    Rendezvous.claimant?_eq_none_of_get? (Rendezvous.freshToken?_eq_some hfresh).1
  simp only [issue, hselect, hfresh, Sessions.expectPayload_of_no_claimant hfree]
  simp [announce, announcements]

/-- A ticket is refused, or it is issued. -/
theorem issue_cases (now : Nat) (wall : Timestamp) (draws : List Draw) (d : Desk σ)
    (s : Sessions HandoffPayload) (c : ConnectionId) (slot : UInt8) :
    (∃ e, d.issue now wall draws s c slot = .error e) ∨
    ∃ chosen t, d.select s c slot = .ok chosen ∧ s.rendezvous.freshToken? draws = some t ∧
      d.issue now wall draws s c slot
        = .ok (⟨t, chosen.server, d.chatServer⟩,
            s.leave now t ⟨chosen.holder, some chosen.character.name⟩,
            { d with announced := d.announced ++ announcements chosen t }) := by
  rcases hselect : d.select s c slot with x | chosen
  · refine .inl ⟨x, ?_⟩
    simp only [issue, hselect]
  · rcases hfresh : s.rendezvous.freshToken? draws with - | t
    · refine .inl ⟨.noFreshToken, ?_⟩
      simp only [issue, hselect, hfresh]
    · exact .inr ⟨chosen, t, rfl, rfl, issue_eq_ok hselect hfresh now wall⟩

end Desk

end Lobby
