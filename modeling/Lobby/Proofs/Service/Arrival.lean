/-
Lobby/Proofs/Service/Arrival.lean

It does not matter who comes first to a token.

A claim that finds nobody waits, and the announcement that comes to it is answered in the midst of a
call of another server; an announcement that finds nobody waits, and the claim that comes to it is
answered in its own call.  In the rendezvous either pair of arrivals cancels out, because the token was
free and the claimant was on no token (`registerPayload_of_claimed`, `registerClaimant_of_left`), so
that both orders come to the same equation: the session is what the desk answers, and the desk is what
it is after the answer (`claim_then_announcement`, `announcement_then_claim`).  What the answer and its
messages are does not depend on the time, only the last login that is stored does (`claimMatched_at`).
-/
import Lobby.Proofs.Service.Deliveries
import Lobby.Proofs.Storage.Alike

namespace Lobby

/-! ### The rendezvous -/

namespace Rendezvous

variable {γ π : Type} [DecidableEq γ] {r : Rendezvous γ π} {t : String} {c : γ}

omit [DecidableEq γ] in
/-- A token is free if it has no entry. -/
theorem side?_eq_none_iff : r.side? t = none ↔ r.entries.get? t = none := Option.map_eq_none_iff

theorem leaveOther_of_idle (hc : r.tokenOf? c = none) (t : String) : r.leaveOther t c = r := by
  have hnone : r.claimants.get? c = none := hc
  simp only [leaveOther, hnone]

/-- A claimant that is met on a free token leaves no trace. -/
theorem registerPayload_of_claimed (ht : r.entries.get? t = none) (hc : r.tokenOf? c = none)
    (now now' : Nat) (p : π) :
    ((r.registerClaimant now t c).1.registerPayload now' t p).1 = r := by
  have hclaim : (r.registerClaimant now t c).1 = r.awaitPayload now t c := by
    simp only [registerClaimant, leaveOther_of_idle hc, ht]
  have hwaits : (r.awaitPayload now t c).entries.get? t = some ⟨.claimant c, now⟩ := by
    simp [awaitPayload]
  rw [hclaim]
  simp only [registerPayload, hwaits]
  -- the entry and the claim that were put in are taken out again
  simp only [awaitPayload, KeyedList.erase_insert ht, KeyedList.erase_insert hc]

/-- A payload that is met on a free token leaves no trace. -/
theorem registerClaimant_of_left (ht : r.entries.get? t = none) (hc : r.tokenOf? c = none)
    (now now' : Nat) (p : π) :
    ((r.registerPayload now' t p).1.registerClaimant now t c).1 = r := by
  have hleft : (r.registerPayload now' t p).1
      = { r with entries := r.entries.insert t ⟨.payload p, now'⟩ } := by
    simp only [registerPayload, ht]
  have hidle : (r.registerPayload now' t p).1.tokenOf? c = none := by
    rw [hleft]
    exact hc
  have hwaits : (r.registerPayload now' t p).1.entries.get? t = some ⟨.payload p, now'⟩ := by
    simp [hleft]
  simp only [registerClaimant, leaveOther_of_idle hidle, hwaits]
  simp only [hleft, KeyedList.erase_insert ht]

end Rendezvous

/-! ### The sessions -/

namespace Sessions

variable {π : Type} {s : Sessions π} {c : ConnectionId} {t : String}

theorem set_set (s : Sessions π) (c : ConnectionId) (x y : Session) :
    (s.set c x).set c y = s.set c y := by
  simp only [set, KeyedList.insert_insert]

/-- Nobody is released by a claim on a token on which no claimant waits. -/
theorem present_of_no_claimant (ht : s.rendezvous.claimant? t = none) (now : Nat) :
    s.present now c t
      = { s.set c (.awaitingToken t) with
          rendezvous := (s.rendezvous.registerClaimant now t c).1 } := by
  simp only [present, ht]
  rfl

/-- The session that has waited on a free token for a payload is what it is answered. -/
theorem answer_of_claimed (ht : s.rendezvous.entries.get? t = none)
    (hc : s.rendezvous.tokenOf? c = none) (now now' : Nat) (p : π) (x : Session) :
    ((s.present now c t).leave now' t p).set c x = s.set c x := by
  have hmet := Rendezvous.registerPayload_of_claimed ht hc now now' p
  rw [present_of_no_claimant (Rendezvous.claimant?_eq_none_of_get? ht)]
  simp only [leave, hmet]
  exact set_set s c _ x

/-- The session that comes to a payload on a free token is what it is answered. -/
theorem answer_of_left (ht : s.rendezvous.entries.get? t = none)
    (hc : s.rendezvous.tokenOf? c = none) (now now' : Nat) (p : π) (x : Session) :
    ((s.leave now' t p).present now c t).set c x = s.set c x := by
  have hmet := Rendezvous.registerClaimant_of_left ht hc now now' p
  have hnone : (s.leave now' t p).rendezvous.claimant? t = none := by
    show (s.rendezvous.registerPayload now' t p).1.claimant? t = none
    rw [Rendezvous.claimant?_registerPayload, if_pos rfl]
  rw [present_of_no_claimant hnone]
  show { (s.leave now' t p).set c _ with rendezvous := _ }.set c x = _
  simp only [leave, hmet]
  exact set_set s c _ x

end Sessions

/-! ### The desk -/

namespace Desk

variable {σ : Type} [Backend σ]

/-- At any other time a meeting is answered with the same account and the same messages. -/
theorem claimMatched_at (on on' : Timestamp) (c : ConnectionId) (p : HandoffPayload) (d : Desk σ) :
    claimMatched on' c p d
      = ((claimMatched on c p d).1,
          { (claimMatched on c p d).2 with storage := (claimMatched on' c p d).2.storage }) := by
  simp only [claimMatched]
  rcases d.admitted p with status | r
  · rfl
  · -- the time is in the record that is written back and nowhere else
    simp only [sendCharacters_eq, tryPersist_eq]
    rfl

/-- In a store that does not show the time of a login it does not show at what time a meeting was
answered. -/
theorem alike_claimMatched (h : Backend.Timeless σ) (on on' : Timestamp) (c : ConnectionId)
    (p : HandoffPayload) (d : Desk σ) :
    Alike (claimMatched on c p d).2.storage (claimMatched on' c p d).2.storage := by
  simp only [claimMatched]
  rcases d.admitted p with status | r
  · exact .refl _
  · simp only [sendCharacters_eq, tryPersist_eq]
    exact h d.storage r on on'

end Desk

/-! ### The service -/

namespace Service

variable {σ : Type} [Backend σ] {s : Service σ} {c : ConnectionId} {t : String}

/-- A claim on a free token and the announcement that comes to it: the session is what the desk
answers. -/
theorem claim_then_announcement (hs : s.sessions.Lockstep)
    (hc : s.sessions.get? c = some .unauthenticated)
    (ht : s.sessions.rendezvous.entries.get? t = none) (now later : Moment) (draws : List Draw)
    (a : AccountId) :
    (s.step (.request now draws c (.reconnect t))).step (.announce later t a)
      = { s with
          sessions := s.sessions.set c
            (.ofAccount? (Desk.claimMatched later.calendar c ⟨a, none⟩ s.desk).1)
          desk := (Desk.claimMatched later.calendar c ⟨a, none⟩ s.desk).2 } := by
  have hp := Rendezvous.payload?_eq_none_of_get? ht
  have hidle := hs.tokenOf?_eq_none (Sessions.not_awaiting hc nofun)
  have hclaimed := step_claim_of_no_payload hc hp now draws
  generalize hs₁ : s.step (.request now draws c (.reconnect t)) = s₁ at hclaimed
  -- in the meantime the connection waits as the claimant of the token
  have hwaits : s₁.sessions.rendezvous.claimant? t = some c := by
    rw [hclaimed]
    show (s.sessions.rendezvous.registerClaimant now.steady t c).1.claimant? t = some c
    rw [Rendezvous.claimant?_registerClaimant, if_pos rfl, hp]
    rfl
  have hlock : s₁.sessions.Lockstep := by
    rw [← hs₁]
    exact lockstep_step hs _
  rw [step_announce_of_claimant hlock hwaits later a, hclaimed]
  simp only [Sessions.answer_of_claimed ht hidle]

/-- An announcement on a free token and the claim that comes to it: the session is what the desk
answers. -/
theorem announcement_then_claim (hs : s.sessions.Lockstep)
    (hc : s.sessions.get? c = some .unauthenticated)
    (ht : s.sessions.rendezvous.entries.get? t = none) (now later : Moment) (draws : List Draw)
    (a : AccountId) :
    (s.step (.announce now t a)).step (.request later draws c (.reconnect t))
      = { s with
          sessions := s.sessions.set c
            (.ofAccount? (Desk.claimMatched later.calendar c ⟨a, none⟩ s.desk).1)
          desk := (Desk.claimMatched later.calendar c ⟨a, none⟩ s.desk).2 } := by
  have hidle := hs.tokenOf?_eq_none (Sessions.not_awaiting hc nofun)
  have hnone := Rendezvous.claimant?_eq_none_of_get? ht
  -- in the meantime the payload waits, and the connection is logged out as before
  have hleft := Sessions.lockstep_leave hs hnone now.steady (⟨a, none⟩ : HandoffPayload)
  have hp : (s.sessions.leave now.steady t ⟨a, none⟩).rendezvous.payload? t = some ⟨a, none⟩ := by
    show (s.sessions.rendezvous.registerPayload now.steady t ⟨a, none⟩).1.payload? t = _
    rw [Rendezvous.payload?_registerPayload, if_pos rfl, hnone]
    rfl
  rw [step_announce_of_no_claimant hnone now a,
    step_claim_of_payload (s := { s with sessions := s.sessions.leave now.steady t ⟨a, none⟩ }) hleft
      hc hp later draws]
  simp only [Sessions.answer_of_left ht hidle]

/-- **The order of arrival does not matter.**  In any state that a service comes to, over any store
whatever, a connection is logged out and a token is free.  The connection claims the token and another
server announces a client of an account on it, in either order, and whatever account that is.  Then:

* the first of the two calls queues nothing and leaves the desk, with the store, as it is;
* the second one is answered by the desk: the session is logged in as the account that it admits, or
  logged out, and no other session and nothing in the rendezvous differs from before the two calls;
* so the sessions are the same in both orders, with the same rendezvous, in which the token is free
  again;
* the same deliveries have been queued and the same has been announced;
* the stores are alike, up to the time of a last login, if it does not show in the store otherwise; and
  if the second calls are made on the same day at the same time, then nothing at all differs. -/
theorem arrival_order_does_not_matter (config : AccountConfig) (rendezvous : RendezvousConfig)
    (storage : σ) (servers : MapTable) (events : List Event) {c : ConnectionId} {t : String}
    (hc : ((create config rendezvous storage servers).run events).sessions.get? c
      = some .unauthenticated)
    (ht : ((create config rendezvous storage servers).run events).sessions.rendezvous.side? t = none)
    (a : AccountId) (claimed met announced redeemed : Moment) (draws draws' : List Draw) :
    let s := (create config rendezvous storage servers).run events
    let waiting := s.step (.request claimed draws c (.reconnect t))
    let expected := s.step (.announce announced t a)
    let s₁ := waiting.step (.announce met t a)
    let s₂ := expected.step (.request redeemed draws' c (.reconnect t))
    let answer := Desk.claimMatched met.calendar c ⟨a, none⟩ s.desk
    (s.queued (.request claimed draws c (.reconnect t)) = [] ∧ waiting.desk = s.desk) ∧
      (s.queued (.announce announced t a) = [] ∧ expected.desk = s.desk) ∧
      s₁ = { s with sessions := s.sessions.set c (.ofAccount? answer.1), desk := answer.2 } ∧
      s₁.sessions = s₂.sessions ∧ s₁.sessions.rendezvous.side? t = none ∧
      waiting.queued (.announce met t a)
        = expected.queued (.request redeemed draws' c (.reconnect t)) ∧
      s₁.desk.outbox = s₂.desk.outbox ∧ s₁.desk.announced = s₂.desk.announced ∧
      (Backend.Timeless σ → Alike s₁.desk.storage s₂.desk.storage) ∧
      (met.calendar = redeemed.calendar → s₁ = s₂) := by
  intro s waiting expected s₁ s₂ answer
  have hs : s.sessions.Lockstep := lockstep_run (Sessions.lockstep_empty _) events
  have hfree : s.sessions.rendezvous.entries.get? t = none := Rendezvous.side?_eq_none_iff.mp ht
  have hwaiting : waiting.desk = s.desk := by
    show (s.step _).desk = s.desk
    rw [step_claim_of_no_payload hc (Rendezvous.payload?_eq_none_of_get? hfree) claimed draws]
  have hexpected : expected.desk = s.desk := by
    show (s.step _).desk = s.desk
    rw [step_announce_of_no_claimant (Rendezvous.claimant?_eq_none_of_get? hfree) announced a]
  have hs₁ := claim_then_announcement hs hc hfree claimed met draws a
  have hs₂ := announcement_then_claim hs hc hfree announced redeemed draws' a
  -- both orders come to one equation, but for the time at which the desk is asked
  have hsame := Desk.claimMatched_at met.calendar redeemed.calendar c ⟨a, none⟩ s.desk
  have hsessions : s₁.sessions = s₂.sessions := by
    show ((s.step _).step _).sessions = ((s.step _).step _).sessions
    rw [hs₁, hs₂, hsame]
  have hdesk₁ : s₁.desk = (Desk.claimMatched met.calendar c ⟨a, none⟩ s.desk).2 :=
    congrArg Service.desk hs₁
  have hdesk₂ : s₂.desk = (Desk.claimMatched redeemed.calendar c ⟨a, none⟩ s.desk).2 :=
    congrArg Service.desk hs₂
  have houtbox : s₁.desk.outbox = s₂.desk.outbox := by
    rw [hdesk₁, hdesk₂, hsame]
  refine ⟨⟨queued_of_desk hwaiting, hwaiting⟩, ⟨queued_of_desk hexpected, hexpected⟩, hs₁, hsessions,
    ?_, ?_, houtbox, ?_, ?_, ?_⟩
  · show ((s.step _).step _).sessions.rendezvous.side? t = none
    rw [hs₁]
    exact ht
  · show s₁.desk.outbox.drop waiting.desk.outbox.length
      = s₂.desk.outbox.drop expected.desk.outbox.length
    rw [houtbox, hwaiting, hexpected]
  · rw [hdesk₁, hdesk₂, hsame]
  · intro htimeless
    rw [hdesk₁, hdesk₂]
    exact Desk.alike_claimMatched htimeless _ _ c ⟨a, none⟩ s.desk
  · intro hday
    show (s.step _).step _ = (s.step _).step _
    rw [hs₁, hs₂, hday]

/-- A client is logged in whether he or his announcement comes first, and his last login is stored on
different days. -/
theorem announced_client_comes_first_or_second :
    let dawn : Timestamp := ⟨0, 0, by decide, by decide⟩
    let dusk : Timestamp := ⟨43200, 0, by decide, by decide⟩
    let ann : Account := ⟨⟨0⟩, "ann", "", "", .normal, [], dawn, none⟩
    let s := (create .standard .standard (Storage.ofEdits [.add ann]) .empty).run [.connect ⟨5⟩]
    let s₁ := (s.step (.request ⟨1, dawn⟩ [] ⟨5⟩ (.reconnect "gate"))).step
      (.announce ⟨2, dawn⟩ "gate" ⟨1⟩)
    let s₂ := (s.step (.announce ⟨1, dusk⟩ "gate" ⟨1⟩)).step
      (.request ⟨2, dusk⟩ [] ⟨5⟩ (.reconnect "gate"))
    s₁.sessions.get? ⟨5⟩ = some (.authenticated ⟨1⟩) ∧ s₁.sessions = s₂.sessions ∧
      s₁.desk.outbox = s₂.desk.outbox ∧ Alike s₁.desk.storage s₂.desk.storage ∧
      s₁.desk.storage.accounts.get? ⟨1⟩ ≠ s₂.desk.storage.accounts.get? ⟨1⟩ := by
  intro dawn dusk ann s s₁ s₂
  have hc : s.sessions.get? ⟨5⟩ = some .unauthenticated := by decide
  have ht : s.sessions.rendezvous.side? "gate" = none := by decide
  obtain ⟨-, -, -, hsessions, -, -, houtbox, -, halike, -⟩ :=
    arrival_order_does_not_matter .standard .standard (Storage.ofEdits [.add ann]) .empty
      [.connect ⟨5⟩] hc ht ⟨1⟩ ⟨1, dawn⟩ ⟨2, dawn⟩ ⟨1, dusk⟩ ⟨2, dusk⟩ [] []
  have hlogin : s₁.sessions.get? ⟨5⟩ = some (.authenticated ⟨1⟩) := by decide +kernel
  have hdays : s₁.desk.storage.accounts.get? ⟨1⟩ ≠ s₂.desk.storage.accounts.get? ⟨1⟩ := by
    decide +kernel
  exact ⟨hlogin, hsessions, houtbox, halike Storage.timeless, hdays⟩

end Service

end Lobby
