/-
Lobby/Proofs/Session/Effects.lean

What an operation leaves behind, seen from one connection and in the rendezvous.

`Lockstep` fixes which branches an operation takes.  What is left of it is said here without
branches: which session every connection has afterwards (`get?_logout`, `get?_disconnect`,
`get?_answered`, `get?_sweep`), and that in the rendezvous every operation is the one of the same
purpose (`rendezvous_logout`, `rendezvous_disconnect`, `rendezvous_expectPayload`,
`rendezvous_sweep`).
-/
import Lobby.Proofs.Session.Lockstep
import Mathlib.Data.List.Nodup

namespace Lobby

namespace Sessions

variable {π ω : Type} {s s' : Sessions π} {c : ConnectionId} {t : String}

/-! ### Sessions end -/

theorem get?_logout {outcome : LogoutOutcome} (h : s.logout c = .ok (outcome, s'))
    (c' : ConnectionId) :
    s'.get? c' = if c = c' then some .unauthenticated else s.get? c' := by
  rcases hc : s.get? c with - | - | a | t <;> simp only [logout, hc] at h <;> cases h
  · exact get?_set s c c' _
  · show (s.set c .unauthenticated).get? c' = _
    exact get?_set s c c' _

theorem get?_disconnect (s : Sessions π) (c c' : ConnectionId) :
    (s.disconnect c).2.get? c' = if c = c' then none else s.get? c' := by
  have herase : (s.table.erase c).get? c' = if c = c' then none else s.get? c' :=
    KeyedList.get?_erase s.table c c'
  rcases hc : s.get? c with - | - | a | t <;> simp only [disconnect, hc]
  · -- there was no session
    by_cases hcc : c = c'
    · subst hcc
      rw [if_pos rfl, hc]
    · rw [if_neg hcc]
  · exact herase
  · exact herase
  · exact herase

/-- Cancelling the claim of a session that does not wait changes nothing. -/
theorem Lockstep.cancelClaimant_eq (hs : s.Lockstep)
    (hc : ∀ t, s.get? c ≠ some (.awaitingToken t)) :
    (s.rendezvous.cancelClaimant c).1 = s.rendezvous :=
  Rendezvous.cancelClaimant_of_idle (hs.tokenOf?_eq_none hc)

/-- A logout is a cancellation in the rendezvous. -/
theorem rendezvous_logout (hs : s.Lockstep) {outcome : LogoutOutcome}
    (h : s.logout c = .ok (outcome, s')) :
    s'.rendezvous = (s.rendezvous.cancelClaimant c).1 := by
  rcases hc : s.get? c with - | - | a | t' <;> simp only [logout, hc] at h <;> cases h
  · -- logged in: there is nothing to cancel
    rw [hs.cancelClaimant_eq (not_awaiting hc (by simp))]
    rfl
  · rfl

/-- The end of a connection is a cancellation in the rendezvous. -/
theorem rendezvous_disconnect (hs : s.Lockstep) (c : ConnectionId) :
    (s.disconnect c).2.rendezvous = (s.rendezvous.cancelClaimant c).1 := by
  rcases hc : s.get? c with - | - | a | t' <;> simp only [disconnect, hc]
  · -- none, logged out or logged in: there is nothing to cancel
    rw [hs.cancelClaimant_eq (not_awaiting hc (by simp))]
  · rw [hs.cancelClaimant_eq (not_awaiting hc (by simp))]
  · rw [hs.cancelClaimant_eq (not_awaiting hc (by simp))]
  · rfl

/-! ### Claims -/

/-- A claim that a payload answers changes no other session, as there is no rival. -/
theorem get?_answered (hs : s.Lockstep) (hc : s.get? c = some .unauthenticated) {p : π}
    (hp : s.rendezvous.payload? t = some p) (now : Nat) (x : Session) (c' : ConnectionId) :
    ((s.present now c t).set c x).get? c' = if c = c' then some x else s.get? c' := by
  have hnone : s.rendezvous.claimant? t = none :=
    Rendezvous.claimant?_eq_none_of_payload? (by rw [hp]; rfl)
  rw [get?_set, get?_present hs hc, hnone]
  by_cases hcc : c = c'
  · rw [if_pos hcc, if_pos hcc]
  · rw [if_neg hcc, if_neg hcc, if_neg hcc, if_neg nofun]

/-! ### Payloads and sweeps -/

theorem rendezvous_expectPayload (hs : s.Lockstep) (sink : Sink π ω) (w : ω) (now : Nat)
    (t : String) (p : π) :
    (s.expectPayload sink w now t p).2.1.rendezvous = (s.rendezvous.registerPayload now t p).1 := by
  rcases ht : s.rendezvous.claimant? t with - | c
  · rw [expectPayload_of_no_claimant ht]
    rfl
  · rw [expectPayload_of_claimant hs ht]
    rfl

theorem rendezvous_sweep (hs : s.Lockstep) (sink : Sink π ω) (w : ω) (now : Nat) :
    (s.sweep sink w now).2.1.rendezvous = (s.rendezvous.sweep now).1 :=
  (sweep_spec hs sink w now).1

/-- A sweep leaves a session as it is or logs it out. -/
theorem get?_sweep (hs : s.Lockstep) (sink : Sink π ω) (w : ω) (now : Nat) (c : ConnectionId) :
    (s.sweep sink w now).2.1.get? c = s.get? c ∨
      (s.sweep sink w now).2.1.get? c = some .unauthenticated := by
  obtain ⟨-, -, hreset, hkept⟩ := sweep_spec hs sink w now
  by_cases htold : ∃ x ∈ (s.rendezvous.sweep now).2, x.waiting = .claimant c
  · obtain ⟨x, hx, hc⟩ := htold
    exact .inr (hreset x hx c hc)
  · refine .inl (hkept c ?_)
    intro x hx hc
    exact htold ⟨x, hx, hc⟩

/-- A session that is told in a sweep that its wait is over is told once. -/
theorem count_told [DecidableEq π] (hs : s.Lockstep) (now : Nat) {x : Expiry ConnectionId π}
    (hx : x ∈ (s.rendezvous.sweep now).2) (hxc : x.waiting = .claimant c) :
    (s.rendezvous.sweep now).2.countP (·.waiting = .claimant c) = 1 := by
  -- whatever names the connection is about the token that it waits on, and so it is `x`
  have hwait : s.get? c = some (.awaitingToken x.token) := allWait_swept hs now x hx c hxc
  have htoken : ∀ y ∈ (s.rendezvous.sweep now).2, y.waiting = .claimant c → y.token = x.token := by
    intro y hy hyc
    have hsame : s.get? c = some (.awaitingToken y.token) := allWait_swept hs now y hy c hyc
    rw [hwait, Option.some.injEq, Session.awaitingToken.injEq] at hsame
    exact hsame.symm
  have hsame : ∀ y ∈ (s.rendezvous.sweep now).2,
      decide (y.waiting = .claimant c) = true ↔ (y == x) = true := by
    intro y hy
    rw [decide_eq_true_iff, beq_iff_eq]
    constructor
    · intro hyc
      obtain ⟨token, waiting⟩ := y
      obtain ⟨token', waiting'⟩ := x
      have heq : token = token' := htoken _ hy hyc
      cases hyc
      cases hxc
      rw [heq]
    · rintro rfl
      exact hxc
  rw [List.countP_congr hsame]
  exact List.nodup_iff_count_eq_one.mp (Rendezvous.nodup_tokens_sweep ..).of_map x hx

/-! ### The time that anybody may wait -/

/-- No operation changes how long anybody may wait. -/
theorem timeout_of_step (hs : s.Lockstep) (h : Step s s') :
    s'.rendezvous.timeout = s.rendezvous.timeout := by
  cases h with
  | connect heq => rw [(connect_eq heq).2, rendezvous_set]
  | login heq => rw [(login_eq heq).2, rendezvous_set]
  | @reconnect _ ω sink w w' now c t outcome heq =>
    rcases reconnect_cases hs heq with ⟨rfl, -⟩ | ⟨-, -, rfl, -⟩ | ⟨p, -, -, rfl, -⟩
    · rfl
    · exact Rendezvous.timeout_registerClaimant s.rendezvous now t c
    · exact Rendezvous.timeout_registerClaimant s.rendezvous now t c
  | @logout _ c outcome heq =>
    rw [rendezvous_logout hs heq]
    exact Rendezvous.timeout_cancelClaimant s.rendezvous c
  | disconnect c =>
    rw [rendezvous_disconnect hs]
    exact Rendezvous.timeout_cancelClaimant s.rendezvous c
  | expectPayload sink w now t p =>
    rw [rendezvous_expectPayload hs]
    exact Rendezvous.timeout_registerPayload s.rendezvous now t p
  | sweep sink w now =>
    rw [rendezvous_sweep hs]
    exact Rendezvous.timeout_sweep s.rendezvous now

end Sessions

end Lobby
