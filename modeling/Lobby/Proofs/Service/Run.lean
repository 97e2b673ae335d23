/-
Lobby/Proofs/Service/Run.lean

Runs of the service.

An `Event` is anything that can happen to a service: a request or an ill-spelled frame of a
connection, a connection that comes or goes, an announcement of another server, a sweep, a collection
of what is queued, and a change of the store or of the servers by their owner.  `step` takes an event
up, whatever state the service is in, so a run is any list of events.

Two events may bring about a meeting on a token, a claim and an announcement; in lockstep each of them
has one equation for every case (`claim_cases`, `announce_cases`).  Whatever an event does to the
sessions is one of the `Moves`, which also say what the service has found before it moved, and in the
same step the store is written to at most once (`stepped`).  First consequences: in every state that a
run leads to, sessions and rendezvous are in lockstep (`Reachable.lockstep`) and the store is sound
(`Reachable.sound`).
-/
import Lobby.Proofs.Service.Requests

namespace Lobby

/-! ### Events -/

/-- Something that happens to a service. -/
inductive Event where
  /-- A connection makes a request, in which random bytes may be drawn. -/
  | request (now : Moment) (draws : List Draw) (c : ConnectionId) (r : Request)
  /-- A connection sends a frame that spells no request. -/
  | invalid (c : ConnectionId)
  | connect (c : ConnectionId)
  | disconnect (c : ConnectionId)
  /-- Another server announces a client of an account. -/
  | announce (now : Moment) (token : String) (a : AccountId)
  | sweep (now : Moment)
  /-- What is queued is taken. -/
  | collect
  /-- The owner of the store edits it. -/
  | edit (e : Edit)
  /-- The owner of the servers changes which of them hosts which map. -/
  | host (servers : MapTable)

namespace Service

variable {σ : Type} [Backend σ] {s s' : Service σ}

/-- The service after an event. -/
def step (s : Service σ) : Event → Service σ
  | .request now draws c r => s.handle now draws c r
  | .invalid c => s.reply c .invalid
  | .connect c =>
    match s.connect c with
    | .ok s' => s'
    | .error _ => s
  | .disconnect c => s.disconnect c
  | .announce now token a => (s.expectReconnect now token a).2
  | .sweep now => (s.sweep now).2
  | .collect => s.takeOutbox.2
  | .edit e => s.withStorage (e.apply s.desk.storage)
  | .host servers => { s with desk := { s.desk with servers } }

/-- A frame is a request or an ill-spelled frame. -/
theorem handleFrame_eq_step (s : Service σ) (now : Moment) (draws : List Draw) (c : ConnectionId)
    (frame : List UInt8) :
    s.handleFrame now draws c frame = s.step (.invalid c) ∨
      ∃ r, s.handleFrame now draws c frame = s.step (.request now draws c r) := by
  rcases h : Json.decode Request frame with - | r <;> simp only [handleFrame, h]
  · exact .inl rfl
  · exact .inr ⟨r, rfl⟩

/-- The service after a list of events. -/
def run (s : Service σ) (events : List Event) : Service σ := events.foldl step s

@[simp] theorem run_nil (s : Service σ) : s.run [] = s := rfl

@[simp] theorem run_cons (s : Service σ) (e : Event) (events : List Event) :
    s.run (e :: events) = (s.step e).run events := rfl

theorem run_append (s : Service σ) (events later : List Event) :
    s.run (events ++ later) = (s.run events).run later := List.foldl_append

/-! ### What an event does to the sessions -/

/-- The ways in which an event moves the sessions, each with what the service has found before. -/
inductive Moves (s s' : Service σ) : Event → Prop where
  | kept {e : Event} : s'.sessions = s.sessions → Moves s s' e
  | connect {c : ConnectionId} : s.sessions.connect c = .ok s'.sessions → Moves s s' (.connect c)
  | disconnect {c : ConnectionId} :
      s'.sessions = (s.sessions.disconnect c).2 → Moves s s' (.disconnect c)
  /-- Somebody logs in with the credentials of an account that is not banned. -/
  | login {now : Moment} {draws : List Draw} {c : ConnectionId} {clientVersion : UInt32}
      {username password : String} {a : Account} :
      Backend.verify s.desk.storage username password = some a → a.isBanned = false →
      s.sessions.login c a.id = .ok s'.sessions →
      Moves s s' (.request now draws c (.login clientVersion username password))
  /-- Somebody logs in as the account that he has made. -/
  | register {now : Moment} {draws : List Draw} {c : ConnectionId} {clientVersion : UInt32}
      {username password email : String} {id : AccountId} :
      Backend.add s.desk.storage (Account.create username password email now.calendar)
        = .ok (id, s'.desk.storage) →
      s.sessions.login c id = .ok s'.sessions →
      Moves s s' (.request now draws c (.register clientVersion username password email))
  | logout {now : Moment} {draws : List Draw} {c : ConnectionId} {outcome : LogoutOutcome} :
      s.sessions.logout c = .ok (outcome, s'.sessions) → Moves s s' (.request now draws c .logout)
  | claim {now : Moment} {draws : List Draw} {c : ConnectionId} {t : String}
      {outcome : ReconnectOutcome} :
      s.sessions.reconnect (Desk.sink now.calendar) s.desk now.steady c t
        = .ok (outcome, s'.sessions, s'.desk) →
      Moves s s' (.request now draws c (.reconnect t))
  /-- A payload for a connection's own account is left on a token on which nobody waits. -/
  | issue {now : Moment} {draws : List Draw} {c : ConnectionId} {slot : UInt8}
      {chosen : Desk.Selection} {t : String} :
      s.desk.select s.sessions c slot = .ok chosen →
      s.sessions.rendezvous.freshToken? draws = some t →
      s'.sessions
        = s.sessions.leave now.steady t ⟨chosen.holder, some chosen.character.name⟩ →
      Moves s s' (.request now draws c (.characterSelect slot))
  | announce {now : Moment} {t : String} {a : AccountId} :
      (s'.sessions, s'.desk)
        = (s.sessions.expectPayload (Desk.sink now.calendar) s.desk now.steady t ⟨a, none⟩).2 →
      Moves s s' (.announce now t a)
  | sweep {now : Moment} :
      (s'.sessions, s'.desk)
        = (s.sessions.sweep (Desk.sink now.calendar) s.desk now.steady).2 →
      Moves s s' (.sweep now)

/-- An event makes one of the moves, and the store is written to at most once. -/
structure Stepped (s s' : Service σ) (e : Event) : Prop where
  moves : Moves s s' e
  edited : Edited s.desk.storage s'.desk.storage

/-! ### Requests -/

theorem Rewrites.stepped {c : ConnectionId} {a a' : Account} (h : Rewrites s s' c a a') (e : Event)
    (ms : List Message) : Stepped s (s'.replyAll c ms) e := by
  refine ⟨.kept ?_, edited_persist h.persisted⟩
  show s'.sessions = s.sessions
  rw [h.kept]
  rfl

/-- What is granted makes one of the moves. -/
theorem Granted.stepped {now : Moment} {draws : List Draw} {c : ConnectionId} {r : Request}
    {ms : List Message} (h : Granted s now draws c r s' ms) :
    Stepped s (s'.replyAll c ms) (.request now draws c r) := by
  cases h with
  | login _ _ _ hverify hban hlogin hs' =>
    subst hs'
    exact ⟨.login hverify hban hlogin, Desk.edited_tryPersist s.desk _⟩
  | logout hlogout => exact ⟨.logout hlogout, .refl _⟩
  | register _ _ _ _ _ _ hadd hlogin => exact ⟨.register hadd hlogin, edited_add hadd⟩
  | unregister _ _ _ hdelete => exact ⟨.kept rfl, edited_delete hdelete⟩
  | emailChange _ _ hrewrites => exact hrewrites.stepped _ _
  | emailGet _ => exact ⟨.kept rfl, .refl _⟩
  | passwordChange _ _ hrewrites => exact hrewrites.stepped _ _
  | characterCreate _ _ _ hrewrites => exact hrewrites.stepped _ _
  | characterSelect hselect hfresh => exact ⟨.issue hselect hfresh rfl, .refl _⟩
  | characterDelete _ hrewrites => exact hrewrites.stepped _ _

/-! ### Meetings -/

/-- A claim that is not refused leaves the sessions and the desk as the sessions' own operation does. -/
theorem step_claim {now : Moment} {draws : List Draw} {c : ConnectionId} {t : String}
    {outcome : ReconnectOutcome} {sessions : Sessions HandoffPayload} {desk : Desk σ}
    (h : s.sessions.reconnect (Desk.sink now.calendar) s.desk now.steady c t
      = .ok (outcome, sessions, desk)) :
    s.step (.request now draws c (.reconnect t)) = { s with sessions, desk } := by
  simp only [step, handle, h]

/-- A claim of a connection that is not logged out queues nothing and changes nothing. -/
theorem step_claim_of_not_loggedOut {c : ConnectionId}
    (hc : s.sessions.get? c ≠ some .unauthenticated) (now : Moment) (draws : List Draw)
    (t : String) : s.step (.request now draws c (.reconnect t)) = s := by
  rcases hx : s.sessions.get? c with - | x
  · simp only [step, handle, Sessions.reconnect, hx]
  · have hne : x ≠ .unauthenticated := by
      rintro rfl
      exact hc hx
    rw [step_claim (Sessions.reconnect_ignored hx hne ..)]

/-- A claim that finds no payload waits. -/
theorem step_claim_of_no_payload {c : ConnectionId} (hc : s.sessions.get? c = some .unauthenticated)
    {t : String} (hp : s.sessions.rendezvous.payload? t = none) (now : Moment) (draws : List Draw) :
    s.step (.request now draws c (.reconnect t))
      = { s with sessions := s.sessions.present now.steady c t } :=
  step_claim (Sessions.reconnect_of_no_payload hc hp ..)

/-- A claim that finds a payload is answered by the desk in the call. -/
theorem step_claim_of_payload (hs : s.sessions.Lockstep) {c : ConnectionId}
    (hc : s.sessions.get? c = some .unauthenticated) {t : String} {p : HandoffPayload}
    (hp : s.sessions.rendezvous.payload? t = some p) (now : Moment) (draws : List Draw) :
    s.step (.request now draws c (.reconnect t))
      = { s with
          sessions := (s.sessions.present now.steady c t).set c
            (.ofAccount? (Desk.claimMatched now.calendar c p s.desk).1)
          desk := (Desk.claimMatched now.calendar c p s.desk).2 } :=
  step_claim (Sessions.reconnect_of_payload hs hc hp ..)

/-- The payload of an announcement that finds no claimant waits. -/
theorem step_announce_of_no_claimant {t : String} (ht : s.sessions.rendezvous.claimant? t = none)
    (now : Moment) (a : AccountId) :
    s.step (.announce now t a) = { s with sessions := s.sessions.leave now.steady t ⟨a, none⟩ } := by
  simp only [step, expectReconnect, Desk.expectReconnect, Sessions.expectPayload_of_no_claimant ht]

/-- For an announcement that finds a claimant the desk answers in the call. -/
theorem step_announce_of_claimant (hs : s.sessions.Lockstep) {t : String} {c : ConnectionId}
    (ht : s.sessions.rendezvous.claimant? t = some c) (now : Moment) (a : AccountId) :
    s.step (.announce now t a)
      = { s with
          sessions := (s.sessions.leave now.steady t ⟨a, none⟩).set c
            (.ofAccount? (Desk.claimMatched now.calendar c ⟨a, none⟩ s.desk).1)
          desk := (Desk.claimMatched now.calendar c ⟨a, none⟩ s.desk).2 } := by
  simp only [step, expectReconnect, Desk.expectReconnect, Sessions.expectPayload_of_claimant hs ht]
  rfl

/-- A claim changes nothing, or it waits, or the desk answers for it in the call. -/
theorem claim_cases (hs : s.sessions.Lockstep) (now : Moment) (draws : List Draw)
    (c : ConnectionId) (t : String) :
    s.step (.request now draws c (.reconnect t)) = s ∨
    (s.sessions.get? c = some .unauthenticated ∧ s.sessions.rendezvous.payload? t = none ∧
      s.step (.request now draws c (.reconnect t))
        = { s with sessions := s.sessions.present now.steady c t }) ∨
    ∃ p, s.sessions.get? c = some .unauthenticated ∧
      s.sessions.rendezvous.payload? t = some p ∧
      s.step (.request now draws c (.reconnect t))
        = { s with
            sessions := (s.sessions.present now.steady c t).set c
              (.ofAccount? (Desk.claimMatched now.calendar c p s.desk).1)
            desk := (Desk.claimMatched now.calendar c p s.desk).2 } := by
  by_cases hc : s.sessions.get? c = some .unauthenticated
  · rcases hp : s.sessions.rendezvous.payload? t with - | p
    · exact .inr (.inl ⟨hc, rfl, step_claim_of_no_payload hc hp now draws⟩)
    · exact .inr (.inr ⟨p, hc, rfl, step_claim_of_payload hs hc hp now draws⟩)
  · exact .inl (step_claim_of_not_loggedOut hc now draws t)

/-- The payload of an announcement waits, or the desk answers for it in the call. -/
theorem announce_cases (hs : s.sessions.Lockstep) (now : Moment) (t : String) (a : AccountId) :
    (s.sessions.rendezvous.claimant? t = none ∧
      s.step (.announce now t a)
        = { s with sessions := s.sessions.leave now.steady t ⟨a, none⟩ }) ∨
    ∃ c, s.sessions.rendezvous.claimant? t = some c ∧
      s.step (.announce now t a)
        = { s with
            sessions := (s.sessions.leave now.steady t ⟨a, none⟩).set c
              (.ofAccount? (Desk.claimMatched now.calendar c ⟨a, none⟩ s.desk).1)
            desk := (Desk.claimMatched now.calendar c ⟨a, none⟩ s.desk).2 } := by
  rcases ht : s.sessions.rendezvous.claimant? t with - | c
  · exact .inl ⟨rfl, step_announce_of_no_claimant ht now a⟩
  · exact .inr ⟨c, rfl, step_announce_of_claimant hs ht now a⟩

theorem stepped_claim (hs : s.sessions.Lockstep) (now : Moment) (draws : List Draw)
    (c : ConnectionId) (t : String) :
    Stepped s (s.step (.request now draws c (.reconnect t)))
      (.request now draws c (.reconnect t)) := by
  refine ⟨?_, ?_⟩
  · rcases h : s.sessions.reconnect (Desk.sink now.calendar) s.desk now.steady c t
      with x | ⟨outcome, sessions, desk⟩
    · refine .kept ?_
      simp only [step, handle, h]
    · rw [step_claim h]
      exact .claim h
  · -- only a meeting reaches the desk, which then sets the last login
    rcases claim_cases hs now draws c t with heq | ⟨-, -, heq⟩ | ⟨p, -, -, heq⟩ <;> rw [heq]
    · exact .refl _
    · exact .refl _
    · exact Desk.edited_claimMatched now.calendar c p s.desk

theorem stepped_announce (hs : s.sessions.Lockstep) (now : Moment) (t : String) (a : AccountId) :
    Stepped s (s.step (.announce now t a)) (.announce now t a) := by
  refine ⟨.announce rfl, ?_⟩
  rcases announce_cases hs now t a with ⟨-, heq⟩ | ⟨c, -, heq⟩ <;> rw [heq]
  · exact .refl _
  · exact Desk.edited_claimMatched now.calendar c ⟨a, none⟩ s.desk

/-- A sweep does not concern the store. -/
theorem storage_sweep (hs : s.sessions.Lockstep) (now : Moment) :
    (s.step (.sweep now)).desk.storage = s.desk.storage := by
  show (s.sessions.sweep (Desk.sink now.calendar) s.desk now.steady).2.2.storage = _
  obtain ⟨-, hdesk, -⟩ := Sessions.sweep_spec hs (Desk.sink now.calendar) s.desk now.steady
  rw [hdesk]
  exact Desk.storage_tell now.calendar _ s.desk

/-! ### Every event is one of the moves -/

/-- A request makes one of the moves. -/
theorem stepped_request (hs : s.sessions.Lockstep) (now : Moment) (draws : List Draw)
    (c : ConnectionId) (r : Request) :
    Stepped s (s.step (.request now draws c r)) (.request now draws c r) := by
  by_cases hr : ∃ t, r = .reconnect t
  · obtain ⟨t, rfl⟩ := hr
    exact stepped_claim hs now draws c t
  · show Stepped s (s.handle now draws c r) _
    rcases s.answered now draws c fun t ht => hr ⟨t, ht⟩ with
      ⟨status, -, heq⟩ | ⟨s', ms, hgranted, heq⟩ <;> rw [heq]
    · exact ⟨.kept rfl, .refl _⟩
    · exact hgranted.stepped

/-- **Every event makes one of the moves, and the store is written to at most once.** -/
theorem stepped (hs : s.sessions.Lockstep) (e : Event) : Stepped s (s.step e) e := by
  cases e with
  | request now draws c r => exact stepped_request hs now draws c r
  | invalid c => exact ⟨.kept rfl, .refl _⟩
  | connect c =>
    show Stepped s (match s.connect c with | .ok s' => s' | .error _ => s) _
    rcases h : s.sessions.connect c with x | sessions <;> simp only [Service.connect, h]
    · exact ⟨.kept rfl, .refl _⟩
    · exact ⟨.connect h, .refl _⟩
  | disconnect c => exact ⟨.disconnect rfl, .refl _⟩
  | announce now t a => exact stepped_announce hs now t a
  | sweep now => exact ⟨.sweep rfl, .inl (storage_sweep hs now)⟩
  | collect => exact ⟨.kept rfl, .refl _⟩
  | edit e => exact ⟨.kept rfl, edited_apply s.desk.storage e⟩
  | host servers => exact ⟨.kept rfl, .refl _⟩

/-! ### Runs -/

/-- A move is an operation on the sessions, or none. -/
theorem Moves.sessions_step {e : Event} (h : Moves s s' e) :
    s'.sessions = s.sessions ∨ s.sessions.Step s'.sessions := by
  cases h with
  | kept heq => exact .inl heq
  | connect hconnect => exact .inr (.connect hconnect)
  | disconnect heq =>
    rw [heq]
    exact .inr (.disconnect ..)
  | login _ _ hlogin => exact .inr (.login hlogin)
  | register _ hlogin => exact .inr (.login hlogin)
  | logout hlogout => exact .inr (.logout hlogout)
  | claim hclaim => exact .inr (.reconnect hclaim)
  | @issue now draws c slot chosen t _ hfresh heq =>
    have hfree : s.sessions.rendezvous.claimant? t = none :=
      Rendezvous.claimant?_eq_none_of_get? (Rendezvous.freshToken?_eq_some hfresh).1
    have hstep := Sessions.Step.expectPayload s.sessions (Desk.sink now.calendar) s.desk now.steady t
      ⟨chosen.holder, some chosen.character.name⟩
    rw [Sessions.expectPayload_of_no_claimant hfree] at hstep
    rw [heq]
    exact .inr hstep
  | @announce now t a heq =>
    have hsessions := congrArg Prod.fst heq
    dsimp only at hsessions
    rw [hsessions]
    exact .inr (.expectPayload ..)
  | @sweep now heq =>
    have hsessions := congrArg Prod.fst heq
    dsimp only at hsessions
    rw [hsessions]
    exact .inr (.sweep ..)

theorem lockstep_step (hs : s.sessions.Lockstep) (e : Event) : (s.step e).sessions.Lockstep := by
  rcases (stepped hs e).moves.sessions_step with heq | hstep
  · rw [heq]
    exact hs
  · exact hs.step hstep

theorem lockstep_run (hs : s.sessions.Lockstep) (events : List Event) :
    (s.run events).sessions.Lockstep := by
  induction events generalizing s with
  | nil => exact hs
  | cons e events ih => exact ih (lockstep_step hs e)

variable [Backend.Faithful σ]

/-- The services that events lead to from one without sessions, over a sound store. -/
inductive Reachable : Service σ → Prop where
  | create (config : AccountConfig) (rendezvous : RendezvousConfig) {storage : σ}
      (servers : MapTable) : Backend.Faithful.Sound storage →
      Reachable (create config rendezvous storage servers)
  | step {s : Service σ} (e : Event) : Reachable s → Reachable (s.step e)

theorem Reachable.lockstep (h : Reachable s) : s.sessions.Lockstep := by
  induction h with
  | create config rendezvous servers _ => exact Sessions.lockstep_empty _
  | step e _ ih => exact lockstep_step ih e

theorem Reachable.sound (h : Reachable s) : Backend.Faithful.Sound s.desk.storage := by
  induction h with
  | create config rendezvous servers hsound => exact hsound
  | step e h ih => exact (stepped h.lockstep e).edited.sound ih

theorem Reachable.run (h : Reachable s) (events : List Event) : Reachable (s.run events) := by
  induction events generalizing s with
  | nil => exact h
  | cons e events ih => exact ih (h.step e)

end Service

end Lobby
