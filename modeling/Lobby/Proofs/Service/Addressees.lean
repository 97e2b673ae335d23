/-
Lobby/Proofs/Service/Addressees.lean

Everything that is queued is for somebody who is there.

Which connections have sessions changes with their coming and going only (`isSome_get?_of_moves`), since
every move of the service is an operation on the sessions and of these only `connect` and `disconnect`
bring or take a session.  What an event queues is for the connection from which the event comes, or for
one that waits on a token and hears of a meeting or of the end of its wait (`addressed_of_queued`).
-/
import Lobby.Proofs.Service.Deliveries
import Lobby.Proofs.Session.Operations

namespace Lobby

/-- An operation other than the coming or going of a connection brings and takes no session. -/
theorem Sessions.isSome_get?_kept {π ω : Type} {s s' : Sessions π} (hs : s.Lockstep)
    {sink : Sink π ω} {w w' : ω} {now : Nat} {op : Operation π} {result : Result}
    (h : s.perform sink w now op = (result, s', w')) (hconnect : ∀ c, op ≠ .connect c)
    (hdisconnect : ∀ c, op ≠ .disconnect c) (c : ConnectionId) :
    (s'.get? c).isSome = (s.get? c).isSome := by
  rw [Bool.eq_iff_iff, isSome_get?_perform hs h]
  simp [hconnect c, hdisconnect c]

/-- A claimant has a session. -/
theorem Sessions.Lockstep.isSome_get?_of_claimant? {π : Type} {s : Sessions π} (hs : s.Lockstep)
    {c : ConnectionId} {t : String} (h : s.rendezvous.claimant? t = some c) :
    (s.get? c).isSome = true := by
  rw [(hs.awaits c t).mpr h]
  rfl

/-- The connection from which an event comes. -/
def Event.sender? : Event → Option ConnectionId
  | .request _ _ c _ => some c
  | .invalid c => some c
  | _ => none

namespace Service

variable {σ : Type} [Backend σ] {s s' : Service σ} {e : Event}

/-! ### Who is there -/

/-- No event brings or takes a session but the coming and going of a connection. -/
theorem isSome_get?_of_moves (hs : s.sessions.Lockstep) (h : Moves s s' e)
    (hconnect : ∀ c, e ≠ .connect c) (hdisconnect : ∀ c, e ≠ .disconnect c) (c : ConnectionId) :
    (s'.sessions.get? c).isSome = (s.sessions.get? c).isSome := by
  -- logging in and out asks no sink, so that it does not matter which one there is
  have hlogin : ∀ (now : Moment) {d : ConnectionId} {a : AccountId},
      s.sessions.login d a = .ok s'.sessions →
        (s'.sessions.get? c).isSome = (s.sessions.get? c).isSome := by
    intro now d a heq
    have hop : s.sessions.perform (Desk.sink now.calendar) s.desk now.steady (.login d a)
        = (.loggedIn, s'.sessions, s.desk) := by simp only [Sessions.perform, heq]
    exact Sessions.isSome_get?_kept hs hop (by simp) (by simp) c
  cases h with
  | kept heq => rw [heq]
  | @connect d _ => exact absurd rfl (hconnect d)
  | @disconnect d _ => exact absurd rfl (hdisconnect d)
  | @login now _ _ _ _ _ _ _ _ heq => exact hlogin now heq
  | @register now _ _ _ _ _ _ _ _ heq => exact hlogin now heq
  | @logout now _ d outcome heq =>
    have hop : s.sessions.perform (Desk.sink now.calendar) s.desk now.steady (.logout d)
        = (.loggedOut outcome, s'.sessions, s.desk) := by simp only [Sessions.perform, heq]
    exact Sessions.isSome_get?_kept hs hop (by simp) (by simp) c
  | @claim now _ d t outcome heq =>
    have hop : s.sessions.perform (Desk.sink now.calendar) s.desk now.steady (.reconnect d t)
        = (.reconnected outcome, s'.sessions, s'.desk) := by simp only [Sessions.perform, heq]
    exact Sessions.isSome_get?_kept hs hop (by simp) (by simp) c
  | issue _ _ heq =>
    rw [heq]
    rfl
  | @announce now t a heq =>
    have hop : s.sessions.perform (Desk.sink now.calendar) s.desk now.steady
        (.expectPayload t ⟨a, none⟩) = (_, s'.sessions, s'.desk) := Prod.ext rfl heq.symm
    exact Sessions.isSome_get?_kept hs hop (by simp) (by simp) c
  | @sweep now heq =>
    have hop : s.sessions.perform (Desk.sink now.calendar) s.desk now.steady .sweep
        = (_, s'.sessions, s'.desk) := Prod.ext rfl heq.symm
    exact Sessions.isSome_get?_kept hs hop (by simp) (by simp) c

/-! ### For whom something is queued -/

theorem connection_of_mem_map {c : ConnectionId} {ms : List Message} {d : Delivery}
    (h : d ∈ ms.map (Delivery.send c)) : d.connection = c := by
  obtain ⟨m, -, rfl⟩ := List.mem_map.mp h
  rfl

/-- What an event queues is for the connection from which it comes, or for one that has a session. -/
theorem addressed_of_queued (hs : s.sessions.Lockstep) (e : Event) :
    ∀ d ∈ s.queued e,
      e.sender? = some d.connection ∨ (s.sessions.get? d.connection).isSome = true := by
  intro d hd
  cases e with
  | request now draws c r =>
    left
    by_cases hclaim : ∃ t, r = .reconnect t
    · obtain ⟨t, rfl⟩ := hclaim
      rcases claim_cases hs now draws c t with heq | ⟨-, -, heq⟩ | ⟨p, -, -, heq⟩
      · rw [queued_of_desk (by rw [heq])] at hd
        cases hd
      · rw [queued_of_desk (by rw [heq])] at hd
        cases hd
      · obtain ⟨status, infos, hsent, -⟩ := queued_meeting c now.calendar p (congrArg desk heq)
        rw [hsent] at hd
        exact congrArg some (connection_of_mem_map hd).symm
    · obtain ⟨m, rfl, -⟩ := unsettling_of_queued now draws c (fun t ht => hclaim ⟨t, ht⟩) d hd
      rfl
  | invalid c =>
    left
    have hsent : s.queued (.invalid c) = [.send c .invalid] := queued_eq rfl
    rw [hsent] at hd
    cases List.mem_singleton.mp hd
    rfl
  | announce now t a =>
    right
    rcases announce_cases hs now t a with ⟨-, heq⟩ | ⟨c, ht, heq⟩
    · rw [queued_of_desk (by rw [heq])] at hd
      cases hd
    · obtain ⟨status, infos, hsent, -⟩ :=
        queued_meeting c now.calendar ⟨a, none⟩ (congrArg desk heq)
      rw [hsent] at hd
      rw [connection_of_mem_map hd]
      exact hs.isSome_get?_of_claimant? ht
  | sweep now =>
    right
    rw [queued_sweep hs] at hd
    obtain ⟨x, hx, hdx⟩ := List.mem_flatMap.mp hd
    obtain ⟨since, hentry, -⟩ := (Rendezvous.mem_sweep_iff ..).mp hx
    obtain ⟨t, c | p⟩ := x
    · have ht : s.sessions.rendezvous.claimant? t = some c :=
        Rendezvous.claimant?_eq_some_iff.mpr ⟨since, hentry⟩
      -- the notice and the end of the connection are both for the claimant
      have hconnection : d.connection = c := by
        rcases List.mem_pair.mp hdx with rfl | rfl <;> rfl
      rw [hconnection]
      exact hs.isSome_get?_of_claimant? ht
    · cases hdx
  | connect c =>
    rw [queued_connect] at hd
    cases hd
  | disconnect c =>
    rw [queued_of_desk rfl] at hd
    cases hd
  | collect =>
    rw [queued_collect] at hd
    cases hd
  | edit x =>
    have hnothing : s.queued (.edit x) = [] := queued_eq (List.append_nil _).symm
    rw [hnothing] at hd
    cases hd
  | host servers =>
    have hnothing : s.queued (.host servers) = [] := queued_eq (List.append_nil _).symm
    rw [hnothing] at hd
    cases hd

end Service

end Lobby
