/-
Lobby/Proofs/Service/Deliveries.lean

What is queued, event by event.

A request other than a claim queues messages for the connection that makes it, and none of them is
about a claim (`unsettling_of_queued`).  A meeting queues one response for the connection that claims,
and then the characters of the account if the response tells a success (`queued_meeting`).  A sweep
queues a `farewell` for each claimant that it tells, which is a notice and the end of the connection,
next to each other (`queued_sweep`).  Nothing else that happens queues anything about a claim.
-/
import Lobby.Proofs.History
import Lobby.Proofs.Service.Replies

namespace Lobby

/-! ### Messages about claims -/

/-- A message tells a connection what has become of its claim: it is the response to it, or the notice
that its time is over. -/
def Message.settles : Message → Bool
  | reconnectResponse _ => true
  | connectionTimedOut => true
  | _ => false

/-- Only the response to a claim is about one. -/
theorem Request.settles_response {r : Request} (hr : ∀ t, r ≠ .reconnect t) (status : Status) :
    (r.response status).settles = false := by
  cases r with
  | reconnect t => exact absurd rfl (hr t)
  | _ => rfl

theorem settles_of_mem_infos {infos : List CharacterSummary} {m : Message}
    (h : m ∈ infos.map Message.characterInfo) : m.settles = false := by
  obtain ⟨x, -, rfl⟩ := List.mem_map.mp h
  rfl

/-! ### The desk -/

namespace Desk

variable {σ : Type}

/-- What is queued at the end of a wait: a claimant is told so and cut off. -/
def farewell (x : Expiry ConnectionId HandoffPayload) : List Delivery :=
  match x.waiting with
  | .claimant c => [.send c .connectionTimedOut, .disconnect c "reconnect token timed out"]
  | .payload _ => []

theorem outbox_tell [Backend σ] (now : Timestamp)
    (expired : List (Expiry ConnectionId HandoffPayload)) (d : Desk σ) :
    (expired.foldl (Sessions.tell (sink now)) d).outbox
      = d.outbox ++ expired.flatMap farewell := by
  induction expired generalizing d with
  | nil => exact (List.append_nil _).symm
  | cons x xs ih =>
    rw [List.foldl_cons, ih, List.flatMap_cons, ← List.append_assoc]
    congr 1
    obtain ⟨t, c | p⟩ := x
    · show (d.outbox ++ [_]) ++ [_] = _
      rw [List.append_assoc]
      rfl
    · exact (List.append_nil _).symm

/-- A meeting is answered with one response, which tells a success exactly if the session is logged
in; the messages that follow list characters. -/
theorem outbox_claimMatched [Backend σ] (now : Timestamp) (c : ConnectionId) (p : HandoffPayload)
    (d : Desk σ) :
    ∃ (status : Status) (infos : List CharacterSummary),
      (claimMatched now c p d).2.outbox
        = d.outbox ++ (Message.reconnectResponse status :: infos.map .characterInfo).map (.send c) ∧
      (status = .ok ↔ (claimMatched now c p d).1.isSome) := by
  rcases claimMatched_cases now c p d with ⟨-, heq⟩ | ⟨a, -, -, heq⟩ | ⟨a, -, -, heq⟩ <;> rw [heq]
  · exact ⟨.failure, [], rfl, by simp⟩
  · exact ⟨.banned, [], rfl, by simp⟩
  · refine ⟨.ok, a.summaries, ?_, by simp⟩
    show (d.tryPersist _).outbox ++ _ = _
    rw [outbox_tryPersist]

end Desk

namespace Service

variable {σ : Type} [Backend σ] {s s' : Service σ} {e : Event} {c : ConnectionId}

/-! ### Events -/

/-- All that a run queues, in order. -/
def deliveries (s : Service σ) (events : List Event) : List Delivery :=
  (history step s events).flatMap fun x => x.1.queued x.2

theorem deliveries_cons (s : Service σ) (e : Event) (events : List Event) :
    s.deliveries (e :: events) = s.queued e ++ (s.step e).deliveries events := rfl

/-- An event that leaves the desk alone queues nothing. -/
theorem queued_of_desk (h : (s.step e).desk = s.desk) : s.queued e = [] :=
  queued_eq (by rw [h, List.append_nil])

/-- What a granted request is answered with is not about a claim. -/
theorem Granted.settles {now : Moment} {draws : List Draw} {r : Request} {ms : List Message}
    (h : Granted s now draws c r s' ms) : ∀ m ∈ ms, m.settles = false := by
  cases h with
  | login =>
    refine List.forall_mem_cons.mpr ⟨rfl, ?_⟩
    intro m hm
    simp only [listing] at hm
    split at hm
    · cases hm
    · exact settles_of_mem_infos hm
  | characterCreate =>
    refine List.forall_mem_cons.mpr ⟨rfl, ?_⟩
    intro m hm
    simp only [listingAt] at hm
    split at hm
    · cases hm
    · cases List.mem_singleton.mp hm
      rfl
  | _ => exact List.forall_mem_singleton.mpr rfl

/-- A request other than a claim queues messages that are not about a claim. -/
theorem unsettling_of_queued (now : Moment) (draws : List Draw) (c : ConnectionId) {r : Request}
    (hr : ∀ t, r ≠ .reconnect t) :
    ∀ d ∈ s.queued (.request now draws c r), ∃ m, d = .send c m ∧ m.settles = false := by
  rcases s.step_request_cases now draws c hr with
    ⟨status, -, -, hsent⟩ | ⟨s', ms, hgranted, -, hsent⟩ <;> rw [hsent]
  · exact List.forall_mem_singleton.mpr ⟨_, rfl, r.settles_response hr status⟩
  · intro d hd
    obtain ⟨m, hm, rfl⟩ := List.mem_map.mp hd
    exact ⟨m, rfl, hgranted.settles m hm⟩

/-- A meeting queues the answer of the desk. -/
theorem queued_meeting (c : ConnectionId) (on : Timestamp) (p : HandoffPayload)
    (h : (s.step e).desk = (Desk.claimMatched on c p s.desk).2) :
    ∃ (status : Status) (infos : List CharacterSummary),
      s.queued e = (Message.reconnectResponse status :: infos.map .characterInfo).map (.send c) ∧
      (status = .ok ↔ (Desk.claimMatched on c p s.desk).1.isSome) := by
  obtain ⟨status, infos, houtbox, hok⟩ := Desk.outbox_claimMatched on c p s.desk
  refine ⟨status, infos, queued_eq ?_, hok⟩
  rw [h, houtbox]

/-- A sweep queues a farewell for each wait that it ends. -/
theorem queued_sweep (hs : s.sessions.Lockstep) (now : Moment) :
    s.queued (.sweep now) = (s.sessions.rendezvous.sweep now.steady).2.flatMap Desk.farewell := by
  refine queued_eq ?_
  show (s.sessions.sweep (Desk.sink now.calendar) s.desk now.steady).2.2.outbox = _
  rw [(Sessions.sweep_spec hs (Desk.sink now.calendar) s.desk now.steady).2.1]
  exact Desk.outbox_tell now.calendar _ s.desk

/-- Whoever collects what is queued leaves nothing in the queue. -/
theorem queued_collect (s : Service σ) : s.queued .collect = [] := List.drop_nil

theorem queued_connect (s : Service σ) (c : ConnectionId) : s.queued (.connect c) = [] := by
  refine queued_of_desk ?_
  rcases h : s.sessions.connect c with x | sessions <;> simp only [step, Service.connect, h] <;> rfl

/-- An event that is no request and concerns no token queues at most a complaint. -/
theorem unsettling_of_idle (he : ∀ now draws c r, e ≠ .request now draws c r)
    (hannounce : ∀ now t a, e ≠ .announce now t a) (hsweep : ∀ now, e ≠ .sweep now) :
    ∀ d ∈ s.queued e, ∃ c m, d = .send c m ∧ m.settles = false := by
  have hnothing : s.queued e = [] → ∀ d ∈ s.queued e, ∃ c m, d = .send c m ∧ m.settles = false := by
    intro h
    rw [h]
    exact List.forall_mem_nil _
  cases e with
  | request now draws c r => exact absurd rfl (he now draws c r)
  | invalid c =>
    have hsent : s.queued (.invalid c) = [.send c .invalid] := queued_eq rfl
    rw [hsent]
    exact List.forall_mem_singleton.mpr ⟨c, _, rfl, rfl⟩
  | connect c => exact hnothing (queued_connect s c)
  | disconnect c => exact hnothing (queued_of_desk rfl)
  | announce now t a => exact absurd rfl (hannounce now t a)
  | sweep now => exact absurd rfl (hsweep now)
  | collect => exact hnothing (queued_collect s)
  | edit x => exact hnothing (queued_eq (List.append_nil _).symm)
  | host servers => exact hnothing (queued_eq (List.append_nil _).symm)

end Service

end Lobby
