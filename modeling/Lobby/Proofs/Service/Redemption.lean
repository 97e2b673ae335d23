/-
Lobby/Proofs/Service/Redemption.lean

A ticket is redeemed once, and on the record as it is stored then.

The payload of a ticket waits on a token that nobody waited on, and it stays there through every event
that `Spares` it: any request of anybody but a claim on this token, connections that come and go, other
tickets, announcements of other tokens, edits of the store, and sweeps up to the time at which the
payload is overdue (`payload_spared`, `payload_kept`).  The first claim on the token then meets it, in
the very call, and `Redeemed` says how it is answered.  Afterwards the token is like any other one on
which no payload waits, and stays so until one is left there (`no_payload_kept`).

Main result: `ticket_is_redeemed_once`.
-/
import Lobby.Proofs.Account
import Lobby.Proofs.Service.Tokens

namespace Lobby

/-! ### Events that spare a payload, and events that leave none -/

/-- An event does not touch a payload that waits on a token and may wait until some time: it is no
claim on the token, no announcement of it, and no sweep after that time. -/
def Event.Spares (t : String) (deadline : Nat) : Event → Prop
  | .request _ _ _ (.reconnect t') => t' ≠ t
  | .announce _ t' _ => t' ≠ t
  | .sweep now => now.steady ≤ deadline
  | _ => True

/-- An event leaves no payload on a token: it is no announcement of the token, and the token is not
drawn for a ticket. -/
def Event.Withholds (t : String) : Event → Prop
  | .request _ draws _ (.characterSelect _) => ∀ d ∈ draws, d.token ≠ t
  | .announce _ t' _ => t' ≠ t
  | _ => True

namespace Service

variable {σ : Type} [Backend σ] {s : Service σ} {c : ConnectionId} {a : AccountId} {t : String}
  {p : HandoffPayload} {e : Event}

theorem timeout_step (hs : s.sessions.Lockstep) (e : Event) :
    (s.step e).sessions.rendezvous.timeout = s.sessions.rendezvous.timeout := by
  rcases (stepped hs e).moves.sessions_step with heq | hstep
  · rw [heq]
  · exact Sessions.timeout_of_step hs hstep

/-- A payload stays on its token through an event that spares it. -/
theorem payload_spared (hs : s.sessions.Lockstep) {since : Nat}
    (h : s.sessions.rendezvous.entries.get? t = some ⟨.payload p, since⟩)
    (hspare : e.Spares t (since + s.sessions.rendezvous.timeout)) :
    (s.step e).sessions.rendezvous.entries.get? t = some ⟨.payload p, since⟩ := by
  have hpayload : s.sessions.rendezvous.payload? t = some p :=
    Rendezvous.payload?_eq_some_iff.mpr ⟨since, h⟩
  cases tokenChange hs e t with
  | kept hget => rw [hget, h]
  | claimed hpresents _ =>
    cases hpresents
    exact absurd rfl hspare
  | released hclaim _ =>
    rw [Rendezvous.claimant?_eq_none_of_payload? (by rw [hpayload]; rfl)] at hclaim
    cases hclaim
  | @swept now x he hx hover _ =>
    -- an entry that is overdue is older than the timeout
    rw [h] at hx
    cases hx
    subst he
    have hlate : s.sessions.rendezvous.timeout < now.steady - since := of_decide_eq_true hover
    have hintime : now.steady ≤ since + s.sessions.rendezvous.timeout := hspare
    omega
  | left hleaves _ =>
    cases hleaves with
    | announced => exact absurd rfl hspare
    | selected _ hfresh =>
      rw [(Rendezvous.freshToken?_eq_some hfresh).1] at h
      cases h

/-- No payload comes to a token in an event that leaves none. -/
theorem no_payload_kept (hs : s.sessions.Lockstep) (h : s.sessions.rendezvous.payload? t = none)
    (hnone : e.Withholds t) : (s.step e).sessions.rendezvous.payload? t = none := by
  rcases hp : (s.step e).sessions.rendezvous.payload? t with - | p
  · rfl
  · have hleaves : Leaves s t p e := leaves_of_step hs hp (by rw [h]; exact nofun)
    cases hleaves with
    | announced => exact absurd rfl hnone
    | selected _ hfresh =>
      obtain ⟨d, hd, htoken⟩ := (Rendezvous.freshToken?_eq_some hfresh).2
      exact absurd htoken (hnone d hd)

/-- A payload stays on its token through a run of events that spare it. -/
theorem payload_kept (hs : s.sessions.Lockstep) {since : Nat}
    (h : s.sessions.rendezvous.entries.get? t = some ⟨.payload p, since⟩) {events : List Event}
    (hspare : ∀ e ∈ events, e.Spares t (since + s.sessions.rendezvous.timeout)) :
    (s.run events).sessions.rendezvous.entries.get? t = some ⟨.payload p, since⟩ := by
  induction events generalizing s with
  | nil => exact h
  | cons e events ih =>
    rw [run_cons]
    refine ih (lockstep_step hs e) (payload_spared hs h (hspare e (List.mem_cons_self ..))) ?_
    intro e' he'
    rw [timeout_step hs e]
    exact hspare e' (List.mem_cons_of_mem _ he')

/-- No payload comes to a token in a run of events that leave none. -/
theorem no_payload_run (hs : s.sessions.Lockstep) (h : s.sessions.rendezvous.payload? t = none)
    {events : List Event} (hnone : ∀ e ∈ events, e.Withholds t) :
    (s.run events).sessions.rendezvous.payload? t = none := by
  induction events generalizing s with
  | nil => exact h
  | cons e events ih =>
    rw [run_cons]
    exact ih (lockstep_step hs e) (no_payload_kept hs h (hnone e (List.mem_cons_self ..)))
      fun e' he' => hnone e' (List.mem_cons_of_mem _ he')

/-! ### A ticket is issued -/

/-- The payload of a ticket waits on its token. -/
theorem get?_of_ticket {now : Moment} {draws : List Draw} {slot : UInt8} {ticket : Ticket}
    (hc : s.sessions.get? c = some (.authenticated a))
    (h : (s.step (.request now draws c (.characterSelect slot))).desk.outbox
      = s.desk.outbox ++ [.send c (.characterSelectResponse .ok (some ticket))]) :
    ∃ character,
      (s.step (.request now draws c (.characterSelect slot))).sessions.rendezvous.entries.get?
        ticket.token = some ⟨.payload ⟨a, character⟩, now.steady⟩ := by
  change (s.handle now draws c (.characterSelect slot)).desk.outbox = _ at h
  show ∃ character,
    (s.handle now draws c (.characterSelect slot)).sessions.rendezvous.entries.get? _ = _
  rcases s.answered_characterSelect now draws c slot with
    ⟨status, -, heq⟩ | ⟨s', ms, hgranted, heq⟩ <;> rw [heq] at h ⊢
  · -- a refusal comes without a ticket
    exact absurd (List.append_cancel_left h) (by simp [Request.response])
  · cases hgranted with
    | @characterSelect _ chosen t hselect hfresh =>
      cases List.append_cancel_left h
      have hholder : chosen.holder = a := by
        cases (holder_of_select hselect).symm.trans hc
        rfl
      have hfree : s.sessions.rendezvous.claimant? t = none :=
        Rendezvous.claimant?_eq_none_of_get? (Rendezvous.freshToken?_eq_some hfresh).1
      refine ⟨some chosen.character.name, ?_⟩
      show (s.sessions.rendezvous.registerPayload _ _ _).1.entries.get? _ = _
      rw [Rendezvous.get?_registerPayload, if_pos rfl, hfree, hholder]
      rfl

/-! ### A claim is answered -/

/-- A claim on the token of a payload is answered in the call: the desk answers for the meeting, and
its answer is the connection's new session.  The token is free again. -/
theorem claim_of_payload (hs : s.sessions.Lockstep)
    (hc : s.sessions.get? c = some .unauthenticated)
    (hp : s.sessions.rendezvous.payload? t = some p) (now : Moment) (draws : List Draw) :
    let answer := Desk.claimMatched now.calendar c p s.desk
    let s' := s.step (.request now draws c (.reconnect t))
    s'.desk = answer.2 ∧
      (∀ c', s'.sessions.get? c'
        = if c = c' then some (.ofAccount? answer.1) else s.sessions.get? c') ∧
      s'.sessions.rendezvous.payload? t = none := by
  intro answer s'
  have hmet := Sessions.reconnect_of_payload hs hc hp (Desk.sink now.calendar) s.desk now.steady
  have hs' : s' = { s with
      sessions := (s.sessions.present now.steady c t).set c (.ofAccount? answer.1)
      desk := answer.2 } := step_claim hmet
  rw [hs']
  refine ⟨rfl, fun c' => ?_, ?_⟩
  · exact Sessions.get?_answered hs hc hp now.steady _ c'
  · show (s.sessions.rendezvous.registerClaimant now.steady t c).1.payload? t = none
    rw [Rendezvous.payload?_registerClaimant, if_pos rfl]

/-- A claim on a token on which no payload waits is answered with nothing: the connection waits. -/
theorem claim_of_no_payload (hs : s.sessions.Lockstep)
    (hc : s.sessions.get? c = some .unauthenticated)
    (hp : s.sessions.rendezvous.payload? t = none) (now : Moment) (draws : List Draw) :
    let s' := s.step (.request now draws c (.reconnect t))
    s'.desk = s.desk ∧ s'.sessions.get? c = some (.awaitingToken t) := by
  intro s'
  have hwait := Sessions.reconnect_of_no_payload hc hp (Desk.sink now.calendar) s.desk now.steady
  have hs' : s' = { s with sessions := s.sessions.present now.steady c t } := step_claim hwait
  rw [hs']
  refine ⟨rfl, ?_⟩
  show (s.sessions.present now.steady c t).get? c = _
  rw [Sessions.get?_present hs hc, if_pos rfl]

/-- How the claim of a connection is answered against the record of an account, as it is stored when
the claim is made: with a refusal, which is all that is queued, if there is none or it is banned;
otherwise the connection is logged in as the account, and all of its characters are queued behind the
response, each as it is and in the order of their slots. -/
inductive Redeemed (s s' : Service σ) (c : ConnectionId) (a : AccountId) : Prop where
  | gone :
      Backend.findById s.desk.storage a = none →
      s'.sessions.get? c = some .unauthenticated →
      s'.desk.outbox = s.desk.outbox ++ [.send c (.reconnectResponse .failure)] →
      Redeemed s s' c a
  | banned {r : Account} :
      Backend.findById s.desk.storage a = some r → r.level = .banned →
      s'.sessions.get? c = some .unauthenticated →
      s'.desk.outbox = s.desk.outbox ++ [.send c (.reconnectResponse .banned)] →
      Redeemed s s' c a
  | admitted {r : Account} {infos : List CharacterSummary} :
      Backend.findById s.desk.storage a = some r → r.level ≠ .banned →
      s'.sessions.get? c = some (.authenticated a) → r.Lists 0 infos →
      s'.desk.outbox = s.desk.outbox ++ .send c (.reconnectResponse .ok) ::
        infos.map (fun info => .send c (.characterInfo info)) →
      Redeemed s s' c a

/-- A claim on the record of an account that is banned is refused. -/
theorem Redeemed.of_banned {s' : Service σ} {r : Account} (h : Redeemed s s' c a)
    (hfind : Backend.findById s.desk.storage a = some r) (hban : r.level = .banned) :
    s'.sessions.get? c = some .unauthenticated ∧
      s'.desk.outbox = s.desk.outbox ++ [.send c (.reconnectResponse .banned)] := by
  cases h with
  | gone hgone =>
    rw [hfind] at hgone
    cases hgone
  | banned _ _ hsession houtbox => exact ⟨hsession, houtbox⟩
  | admitted hfound hlevel =>
    rw [hfind] at hfound
    cases hfound
    exact absurd hban hlevel

variable [Backend.Faithful σ]

/-- A claim on the token of a payload is answered against the record of the payload's account. -/
theorem redeemed_of_payload (hs : Reachable s) (hc : s.sessions.get? c = some .unauthenticated)
    (hp : s.sessions.rendezvous.payload? t = some p) (now : Moment) (draws : List Draw) :
    Redeemed s (s.step (.request now draws c (.reconnect t))) c p.account := by
  obtain ⟨hdesk, hget, -⟩ := claim_of_payload hs.lockstep hc hp now draws
  have hself := hget c
  rw [if_pos rfl] at hself
  generalize s.step (.request now draws c (.reconnect t)) = s' at hdesk hself
  rcases Desk.claimMatched_cases now.calendar c p s.desk with
    ⟨hgone, heq⟩ | ⟨r, hfind, hban, heq⟩ | ⟨r, hfind, hban, heq⟩ <;> rw [heq] at hdesk hself
  · exact .gone hgone hself (by rw [hdesk]; rfl)
  · exact .banned hfind (Account.isBanned_iff.mp hban) hself (by rw [hdesk]; rfl)
  · have hid : r.id = p.account := Backend.Faithful.id_of_findById hs.sound hfind
    refine .admitted hfind (Account.isBanned_eq_false_iff.mp hban) (hid ▸ hself) r.lists_summaries ?_
    have hkept := Desk.outbox_tryPersist s.desk { r with lastLogin := some now.calendar }
    rw [hdesk]
    show (s.desk.tryPersist _).outbox ++ _ :: (r.summaries.map _).map _ = _
    rw [hkept, List.map_map]
    rfl

/-- **A ticket is redeemed once, whatever happens in between.**  A connection that is logged in as an
account selects a character and is sent a ticket.  Then come any events that spare the payload of the
ticket: no claim on its token, no announcement of it, and no sweep after it is overdue.  Then:

* the first claim on the token by a connection that is logged out, whichever it is, is answered in
  that very call against the record of the account as it is stored by then;
* no other session changes in that call;
* after any events that leave no payload on the token, whoever claims it waits and is sent nothing. -/
theorem ticket_is_redeemed_once (hs : Reachable s) {c₁ c₂ : ConnectionId}
    (hc₁ : s.sessions.get? c₁ = some (.authenticated a)) {issued : Moment} {draws : List Draw}
    {slot : UInt8} {ticket : Ticket}
    (hticket : (s.step (.request issued draws c₁ (.characterSelect slot))).desk.outbox
      = s.desk.outbox ++ [.send c₁ (.characterSelectResponse .ok (some ticket))])
    {events : List Event}
    (hspare : ∀ e ∈ events,
      e.Spares ticket.token (issued.steady + s.sessions.rendezvous.timeout))
    (hc₂ : ((s.step (.request issued draws c₁ (.characterSelect slot))).run events).sessions.get? c₂
      = some .unauthenticated)
    (claimed : Moment) (bytes : List Draw) :
    let s₂ := (s.step (.request issued draws c₁ (.characterSelect slot))).run events
    let s₃ := s₂.step (.request claimed bytes c₂ (.reconnect ticket.token))
    Redeemed s₂ s₃ c₂ a ∧
    (∀ c, c₂ ≠ c → s₃.sessions.get? c = s₂.sessions.get? c) ∧
    ∀ (later : List Event) (c₃ : ConnectionId) (again : Moment) (bytes' : List Draw),
      (∀ e ∈ later, e.Withholds ticket.token) →
      (s₃.run later).sessions.get? c₃ = some .unauthenticated →
      let s₄ := s₃.run later
      let s₅ := s₄.step (.request again bytes' c₃ (.reconnect ticket.token))
      s₅.desk = s₄.desk ∧ s₅.sessions.get? c₃ = some (.awaitingToken ticket.token) := by
  intro s₂ s₃
  have hs₁ : Reachable (s.step (.request issued draws c₁ (.characterSelect slot))) := hs.step _
  have hs₂ : Reachable s₂ := hs₁.run events
  have hs₃ : Reachable s₃ := hs₂.step _
  -- the payload waits from the issue on
  obtain ⟨character, hentry⟩ := get?_of_ticket hc₁ hticket
  rw [← timeout_step hs.lockstep (.request issued draws c₁ (.characterSelect slot))] at hspare
  have hkept := payload_kept hs₁.lockstep hentry hspare
  have hpayload : s₂.sessions.rendezvous.payload? ticket.token = some ⟨a, character⟩ :=
    Rendezvous.payload?_eq_some_iff.mpr ⟨issued.steady, hkept⟩
  obtain ⟨-, hget, hfree⟩ := claim_of_payload hs₂.lockstep hc₂ hpayload claimed bytes
  refine ⟨redeemed_of_payload hs₂ hc₂ hpayload claimed bytes, fun c hne => ?_, ?_⟩
  · rw [hget c, if_neg hne]
  · intro later c₃ again bytes' hnone hc₃
    have hs₄ : Reachable (s₃.run later) := hs₃.run later
    exact claim_of_no_payload hs₄.lockstep hc₃ (no_payload_run hs₃.lockstep hfree hnone) again bytes'

/-- Somebody who was announced selects a character and goes.  A sweep comes just in time for the ticket,
which another connection redeems: as it was issued, or as the account has been banned by then. -/
theorem ticket_redeemed_on_another_connection :
    let dawn : Timestamp := ⟨0, 0, by decide, by decide⟩
    let kay : Character :=
      ⟨"Kay", 0, 1, 2, 3, 0, 0, 100, #v[10, 10, 10, 10, 10, 10], ⟨1⟩, ⟨512, 512⟩⟩
    let ann : Account := ⟨⟨0⟩, "ann", "", "", .normal, [kay], dawn, none⟩
    let servers := MapTable.empty.insert ⟨1⟩ ⟨"game", 9000⟩
    let draw : Draw := Vector.replicate 16 7
    let s := (create .standard .standard (Storage.ofEdits [.add ann]) servers).run
      [.connect ⟨5⟩, .announce ⟨1, dawn⟩ "gate" ⟨1⟩,
        .request ⟨2, dawn⟩ [] ⟨5⟩ (.reconnect "gate")]
    let s₁ := s.step (.request ⟨3, dawn⟩ [draw] ⟨5⟩ (.characterSelect 0))
    let e : Event := .request ⟨40000000000, dawn⟩ [] ⟨6⟩ (.reconnect draw.token)
    let s₂ := s₁.run [.disconnect ⟨5⟩, .sweep ⟨30000000003, dawn⟩, .connect ⟨6⟩]
    let s₂' := s₁.run [.disconnect ⟨5⟩, .sweep ⟨30000000003, dawn⟩, .connect ⟨6⟩,
      .edit (.persist { ann with id := ⟨1⟩, level := .banned })]
    Backend.findById s₂.desk.storage ⟨1⟩ = some { ann with id := ⟨1⟩, lastLogin := some dawn } ∧
      Redeemed s₂ (s₂.step e) ⟨6⟩ ⟨1⟩ ∧
      Redeemed s₂' (s₂'.step e) ⟨6⟩ ⟨1⟩ ∧
      (s₂'.step e).desk.outbox = s₂'.desk.outbox ++ [.send ⟨6⟩ (.reconnectResponse .banned)] := by
  intro dawn kay ann servers draw s s₁ e s₂ s₂'
  have hs : Reachable s :=
    (Reachable.create .standard .standard servers (Storage.sound_ofEdits [.add ann])).run _
  have hc₁ : s.sessions.get? ⟨5⟩ = some (.authenticated ⟨1⟩) := by decide
  let ticket : Ticket := ⟨draw.token, ⟨"game", 9000⟩, AccountConfig.standard.chatServer⟩
  have hticket : s₁.desk.outbox
      = s.desk.outbox ++ [.send ⟨5⟩ (.characterSelectResponse .ok (some ticket))] := by decide
  have hdue : (30000000003 : Nat) ≤ 3 + s.sessions.rendezvous.timeout := by decide
  have hspare : ∀ e ∈ [Event.disconnect ⟨5⟩, .sweep ⟨30000000003, dawn⟩, .connect ⟨6⟩],
      e.Spares ticket.token (3 + s.sessions.rendezvous.timeout) := by simp [Event.Spares, hdue]
  have hspare' : ∀ e ∈ [Event.disconnect ⟨5⟩, .sweep ⟨30000000003, dawn⟩, .connect ⟨6⟩,
        .edit (.persist { ann with id := ⟨1⟩, level := .banned })],
      e.Spares ticket.token (3 + s.sessions.rendezvous.timeout) := by simp [Event.Spares, hdue]
  have hc₂ : s₂.sessions.get? ⟨6⟩ = some .unauthenticated := by decide
  have hc₂' : s₂'.sessions.get? ⟨6⟩ = some .unauthenticated := by decide
  have hfind : Backend.findById s₂.desk.storage ⟨1⟩
      = some { ann with id := ⟨1⟩, lastLogin := some dawn } := by decide
  have hfind' : Backend.findById s₂'.desk.storage ⟨1⟩
      = some { ann with id := ⟨1⟩, level := .banned } := by decide
  clear_value s
  have hredeemed : Redeemed s₂ (s₂.step e) ⟨6⟩ ⟨1⟩ :=
    (ticket_is_redeemed_once hs hc₁ hticket hspare hc₂ ⟨40000000000, dawn⟩ []).1
  have hredeemed' : Redeemed s₂' (s₂'.step e) ⟨6⟩ ⟨1⟩ :=
    (ticket_is_redeemed_once hs hc₁ hticket hspare' hc₂' ⟨40000000000, dawn⟩ []).1
  obtain ⟨-, hrefused⟩ := hredeemed'.of_banned hfind' rfl
  exact ⟨hfind, hredeemed, hredeemed', hrefused⟩

end Service

end Lobby
