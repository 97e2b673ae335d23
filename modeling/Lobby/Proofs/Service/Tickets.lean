/-
Lobby/Proofs/Service/Tickets.lean

What issuing a ticket does, and what it leaves alone.

A ticket needs a session that is logged in, the record of its account, a character in the slot, and a
server for the character's map.  If all of this is there and some draw is fresh, a ticket is issued
(`exists_issued`), and otherwise it is refused for the first thing that is missing
(`issue_of_select_error`).  The payload comes to a token that nobody waits on, so that it is one more entry
behind all others (`entries_leave_of_fresh`): no ticket before it is touched, and no claimant is met.

Main result: `issuing_is_exact`.
-/
import Lobby.Proofs.KeyedList
import Lobby.Proofs.Service.Run

namespace Lobby

/-! ### Servers -/

/-- Some map of servers has, of the listed keys, those that a function has. -/
theorem KeyedList.exists_get?_eq {κ ν : Type} [DecidableEq κ] (f : κ → Option ν) (ks : List κ) :
    ∃ m : KeyedList κ ν, ∀ k, m.get? k = if k ∈ ks then f k else none := by
  induction ks with
  | nil => exact ⟨empty, fun k => rfl⟩
  | cons k₀ ks ih =>
    obtain ⟨m, hm⟩ := ih
    rcases hv : f k₀ with - | v
    · refine ⟨m, ?_⟩
      intro k
      by_cases hk : k = k₀
      · subst hk
        simp [hm, hv]
      · simp [hm, hk]
    · refine ⟨m.insert k₀ v, ?_⟩
      intro k
      by_cases hk : k = k₀
      · subst hk
        simp [hv]
      · simp [hm, hk, Ne.symm hk]

/-- A table of servers can be any assignment of servers to maps, as there are finitely many maps. -/
theorem MapTable.exists_resolve_eq (hosts : MapId → Option ServerAddress) :
    ∃ t : MapTable, t.resolve = hosts := by
  obtain ⟨maps, hmaps⟩ :=
    KeyedList.exists_get?_eq hosts ((List.range UInt16.size).map fun n => ⟨UInt16.ofNat n⟩)
  refine ⟨⟨maps, none⟩, ?_⟩
  funext ⟨m⟩
  have hlisted : (⟨m⟩ : MapId) ∈ (List.range UInt16.size).map fun n => ⟨UInt16.ofNat n⟩ := by
    refine List.mem_map.mpr ⟨m.toNat, List.mem_range.mpr m.toNat_lt, ?_⟩
    rw [UInt16.ofNat_toNat]
  show (maps.get? ⟨m⟩).or none = hosts ⟨m⟩
  rw [hmaps, if_pos hlisted, Option.or_none]

/-! ### Fresh tokens -/

/-- A fresh token is found as soon as one is drawn. -/
theorem Rendezvous.exists_freshToken? {γ π : Type} {r : Rendezvous γ π} {draws : List Draw}
    (h : ∃ draw ∈ draws, r.contains draw.token = false) : ∃ t, r.freshToken? draws = some t := by
  obtain ⟨draw, hmem, hfree⟩ := h
  refine Option.isSome_iff_exists.mp (List.find?_isSome.mpr ?_)
  exact ⟨draw.token, List.mem_map_of_mem hmem, by rw [hfree]; rfl⟩

/-- A payload that comes to a token on which nobody waits is one more entry, behind all others. -/
theorem Sessions.entries_leave_of_fresh {π : Type} {s : Sessions π} {t : String}
    (ht : s.rendezvous.entries.get? t = none) (now : Nat) (p : π) :
    (s.leave now t p).rendezvous.entries.entries
      = s.rendezvous.entries.entries ++ [(t, ⟨.payload p, now⟩)] := by
  simp only [leave, Rendezvous.registerPayload, ht]
  exact KeyedList.put_of_not_mem (KeyedList.get?_eq_none_iff.mp ht)

/-- A payload that waits changes nothing of the sessions but who waits on its token. -/
theorem Sessions.leave_of_fresh {π : Type} {s : Sessions π} {t : String}
    (ht : s.rendezvous.entries.get? t = none) (now : Nat) (p : π) :
    s.leave now t p = { s with
      rendezvous := { s.rendezvous with entries := (s.leave now t p).rendezvous.entries } } := by
  simp only [leave, Rendezvous.registerPayload, ht]

namespace Desk

variable {σ : Type} [Backend σ] {d d' : Desk σ} {s s' : Sessions HandoffPayload} {c : ConnectionId}
  {slot : UInt8}

/-! ### Issuing -/

/-- A ticket has been issued for a selection.  Its token was drawn and nobody waited on it; the payload
waits there now, and is all that has come to the sessions; and two announcements are all that has come
to the desk. -/
structure Issued (now : Nat) (draws : List Draw) (d d' : Desk σ) (s s' : Sessions HandoffPayload)
    (chosen : Selection) (ticket : Ticket) : Prop where
  drawn : ∃ draw ∈ draws, draw.token = ticket.token
  fresh : s.rendezvous.side? ticket.token = none
  waits : s'.rendezvous.entries.entries = s.rendezvous.entries.entries ++
    [(ticket.token, ⟨.payload ⟨chosen.holder, some chosen.character.name⟩, now⟩)]
  sessions : s' = { s with rendezvous := { s.rendezvous with entries := s'.rendezvous.entries } }
  announced : d' = { d with announced := d.announced ++
    [.game ticket.token chosen.character.name chosen.character.map,
      .chat ticket.token chosen.character.name chosen.account.level] }
  gameServer : ticket.gameServer = chosen.server
  chatServer : ticket.chatServer = d.chatServer

/-- If a ticket has what it needs and a fresh token is drawn, it is issued. -/
theorem exists_issued {draws : List Draw}
    (hfresh : ∃ draw ∈ draws, s.rendezvous.contains draw.token = false) {chosen : Selection}
    (h : d.select s c slot = .ok chosen) (now : Nat) (wall : Timestamp) :
    ∃ ticket s' d', d.issue now wall draws s c slot = .ok (ticket, s', d') ∧
      Issued now draws d d' s s' chosen ticket := by
  obtain ⟨t, ht⟩ := Rendezvous.exists_freshToken? hfresh
  obtain ⟨hfree, hdrawn⟩ := Rendezvous.freshToken?_eq_some ht
  refine ⟨_, _, _, issue_eq_ok h ht now wall, hdrawn, ?_, ?_, ?_, rfl, rfl, rfl⟩
  · rw [Rendezvous.side?, hfree]
    rfl
  · exact Sessions.entries_leave_of_fresh hfree now _
  · exact Sessions.leave_of_fresh hfree now _

/-- A ticket is refused for what stands in its way. -/
theorem issue_of_select_error {e : HandoffError} (h : d.select s c slot = .error e) (now : Nat)
    (wall : Timestamp) (draws : List Draw) : d.issue now wall draws s c slot = .error e := by
  simp only [issue, h]

/-- Everything that a ticket needs is there exactly if the session is logged in, its account is stored,
the slot is below the number of the characters, and a server hosts the character's map. -/
theorem exists_selects_iff :
    (∃ chosen, Selects d s c slot chosen) ↔
      ∃ a r, s.get? c = some (.authenticated a) ∧ Backend.findById d.storage a = some r ∧
        ∃ h : slot.toNat < r.characters.length,
          (d.servers.resolve r.characters[slot.toNat].map).isSome := by
  constructor
  · rintro ⟨chosen, hchosen⟩
    obtain ⟨hslot, hcharacter⟩ := List.getElem?_eq_some_iff.mp hchosen.character
    refine ⟨_, _, hchosen.session, hchosen.account, hslot, ?_⟩
    rw [hcharacter, hchosen.server]
    rfl
  · rintro ⟨a, r, hsession, hfind, hslot, hhosted⟩
    obtain ⟨server, hserver⟩ := Option.isSome_iff_exists.mp hhosted
    exact ⟨⟨a, r, _, server⟩, hsession, hfind, List.getElem?_eq_getElem hslot, hserver⟩

end Desk

/-! ### Requests -/

namespace Service

variable {σ : Type} [Backend σ] {s : Service σ} {now : Moment} {draws : List Draw}
  {c : ConnectionId} {slot : UInt8}

theorem step_of_issued {ticket : Ticket} {sessions : Sessions HandoffPayload} {desk : Desk σ}
    (h : s.desk.issue now.steady now.calendar draws s.sessions c slot
      = .ok (ticket, sessions, desk)) :
    s.step (.request now draws c (.characterSelect slot))
      = { s with sessions, desk := desk.send c (.characterSelectResponse .ok (some ticket)) } := by
  simp only [step, handle, h]
  rfl

theorem step_of_not_issued {e : HandoffError}
    (h : s.desk.issue now.steady now.calendar draws s.sessions c slot = .error e) :
    s.step (.request now draws c (.characterSelect slot))
      = { s with desk := s.desk.send c (.characterSelectResponse e.status none) } := by
  simp only [step, handle, h]
  rfl

/-- **Issuing a ticket is exact.**  Whatever waits on which tokens, whatever the store and the servers
are, and whatever is drawn, as long as a fresh token is among it:

* a ticket is issued exactly if the session is logged in, its account is stored, the slot is below the
  number of the account's characters, and a server hosts the character's map;
* it is then issued for that account and that character (`Desk.Selects`), with the effect that
  `Desk.Issued` describes and no other, and the request queues the response with the ticket;
* otherwise something stands in its way (`Desk.Obstacle`), the sessions, the rendezvous, the store and
  the announcements are what they were, and the request queues the response with the refusal;
* this asks nothing of the servers: any assignment of servers to maps is that of some table. -/
theorem issuing_is_exact (s : Service σ) (now : Moment) {draws : List Draw} (c : ConnectionId)
    (slot : UInt8)
    (hfresh : ∃ draw ∈ draws, s.sessions.rendezvous.contains draw.token = false) :
    let result := s.desk.issue now.steady now.calendar draws s.sessions c slot
    let s' := s.step (.request now draws c (.characterSelect slot))
    ((∃ issued, result = .ok issued) ↔
      ∃ a r, s.sessions.get? c = some (.authenticated a) ∧
        Backend.findById s.desk.storage a = some r ∧
        ∃ h : slot.toNat < r.characters.length,
          (s.desk.servers.resolve r.characters[slot.toNat].map).isSome) ∧
    (∀ ticket sessions desk, result = .ok (ticket, sessions, desk) →
      ∃ chosen, Desk.Selects s.desk s.sessions c slot chosen ∧
        Desk.Issued now.steady draws s.desk desk s.sessions sessions chosen ticket ∧
        s' = { s with
          sessions, desk := desk.send c (.characterSelectResponse .ok (some ticket)) }) ∧
    (∀ e, result = .error e →
      Desk.Obstacle s.desk s.sessions c slot e ∧
        s' = { s with desk := s.desk.send c (.characterSelectResponse e.status none) }) ∧
    ∀ hosts : MapId → Option ServerAddress, ∃ servers : MapTable, servers.resolve = hosts := by
  intro result s'
  rw [← Desk.exists_selects_iff]
  rcases s.desk.select_cases s.sessions c slot with
    ⟨e, hobstacle, hselect⟩ | ⟨chosen, hchosen, hselect⟩
  · -- something stands in the way
    have hresult : result = .error e := Desk.issue_of_select_error hselect ..
    refine ⟨⟨?_, ?_⟩, ?_, ?_, MapTable.exists_resolve_eq⟩
    · rintro ⟨issued, hissued⟩
      cases hresult.symm.trans hissued
    · rintro ⟨chosen, hchosen⟩
      cases hselect.symm.trans (Desk.select_eq_ok_iff.mpr hchosen)
    · intro ticket sessions desk hissued
      cases hresult.symm.trans hissued
    · intro e' he'
      cases hresult.symm.trans he'
      exact ⟨hobstacle, step_of_not_issued hresult⟩
  · -- everything is there
    obtain ⟨ticket, sessions, desk, hresult, hissued⟩ :=
      Desk.exists_issued hfresh hselect now.steady now.calendar
    change result = _ at hresult
    refine ⟨⟨fun _ => ⟨chosen, hchosen⟩, fun _ => ⟨_, hresult⟩⟩, ?_, ?_, MapTable.exists_resolve_eq⟩
    · intro ticket' sessions' desk' h
      cases hresult.symm.trans h
      exact ⟨chosen, hchosen, hissued, step_of_issued hresult⟩
    · intro e he
      cases hresult.symm.trans he

/-- The first of three draws is the token of a ticket that is still out, and on the second one another
connection waits; the ticket gets the third one. -/
theorem third_draw_is_fresh :
    let dawn : Timestamp := ⟨0, 0, by decide, by decide⟩
    let kay : Character :=
      ⟨"Kay", 0, 1, 2, 3, 0, 0, 100, #v[10, 10, 10, 10, 10, 10], ⟨1⟩, ⟨512, 512⟩⟩
    let ann : Account := ⟨⟨0⟩, "ann", "", "", .normal, [kay], dawn, none⟩
    let servers := MapTable.empty.insert ⟨1⟩ ⟨"game", 9000⟩
    let draw : UInt8 → Draw := Vector.replicate 16
    let s := (create .standard .standard (Storage.ofEdits [.add ann]) servers).run
      [.connect ⟨5⟩, .announce ⟨1, dawn⟩ "gate" ⟨1⟩,
        .request ⟨2, dawn⟩ [] ⟨5⟩ (.reconnect "gate"),
        .request ⟨3, dawn⟩ [draw 7] ⟨5⟩ (.characterSelect 0), .connect ⟨6⟩,
        .request ⟨4, dawn⟩ [] ⟨6⟩ (.reconnect (draw 8).token)]
    let ticket : Ticket := ⟨(draw 9).token, ⟨"game", 9000⟩, AccountConfig.standard.chatServer⟩
    ∃ chosen sessions desk, chosen.character = kay ∧
      s.desk.issue 5 dawn [draw 7, draw 8, draw 9] s.sessions ⟨5⟩ 0
        = .ok (ticket, sessions, desk) ∧
      Desk.Issued 5 [draw 7, draw 8, draw 9] s.desk desk s.sessions sessions chosen ticket ∧
      sessions.rendezvous.claimant? (draw 8).token = some ⟨6⟩ := by
  intro dawn kay ann servers draw s ticket
  have hfresh : ∃ d ∈ [draw 7, draw 8, draw 9],
      s.sessions.rendezvous.contains d.token = false :=
    ⟨draw 9, by simp, by decide⟩
  have hticket : (s.desk.issue 5 dawn [draw 7, draw 8, draw 9] s.sessions ⟨5⟩ 0).toOption.map
      (fun issued => (issued.1, issued.2.1.rendezvous.claimant? (draw 8).token))
      = some (ticket, some ⟨6⟩) := by decide
  have hkay : (s.desk.select s.sessions ⟨5⟩ 0).toOption.map Desk.Selection.character
      = some kay := by decide
  obtain ⟨-, heffect, -⟩ := issuing_is_exact s ⟨5, dawn⟩ ⟨5⟩ 0 hfresh
  clear_value s
  rcases hresult : s.desk.issue 5 dawn [draw 7, draw 8, draw 9] s.sessions ⟨5⟩ 0 with
    e | ⟨ticket', sessions, desk⟩ <;> rw [hresult] at hticket
  · cases hticket
  · have hpair : (ticket', sessions.rendezvous.claimant? (draw 8).token) = (ticket, some ⟨6⟩) :=
      Option.some.inj hticket
    obtain ⟨rfl, hwaits⟩ := Prod.mk.inj hpair
    obtain ⟨chosen, hchosen, hissued, -⟩ := heffect ticket sessions desk hresult
    rw [Desk.select_eq_ok_iff.mpr hchosen] at hkay
    exact ⟨chosen, sessions, desk, Option.some.inj hkay, rfl, hissued, hwaits⟩

end Service

end Lobby
