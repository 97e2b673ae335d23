/-
Lobby/Proofs/Session/Count.lean

How many sessions are logged in.

Giving one connection a session adds that session to those that are counted and takes away the one it
had (`authenticatedCount_set`).  From this follows what every operation does to the number: a login
adds at most one, a meeting at most one if it is answered with an account, and nothing else adds any.
Nothing is supposed of the sessions, so that it does not matter who waits.
-/
import Lobby.Proofs.KeyedList
import Lobby.Proofs.Session.Lockstep

namespace Lobby

namespace Sessions

variable {π ω : Type} {s s' : Sessions π} {c : ConnectionId}

/-! ### One session -/

theorem authenticatedCount_set (s : Sessions π) (c : ConnectionId) (x : Session) :
    (s.set c x).authenticatedCount + (s.get? c).toList.countP Session.isAuthenticated
      = s.authenticatedCount + [x].countP Session.isAuthenticated :=
  KeyedList.countP_insert _ s.table c x

/-- A session that is not logged in adds nothing. -/
theorem authenticatedCount_set_le (s : Sessions π) (c : ConnectionId) {x : Session}
    (hx : x.isAuthenticated = false) : (s.set c x).authenticatedCount ≤ s.authenticatedCount := by
  have heq := authenticatedCount_set s c x
  rw [List.countP_singleton, hx] at heq
  exact Nat.le_of_add_right_le (Nat.le_of_eq heq)

/-- An answer adds at most the account that it names. -/
theorem authenticatedCount_answered (s : Sessions π) (c : ConnectionId)
    (answer : Option AccountId) :
    (s.set c (.ofAccount? answer)).authenticatedCount
      ≤ s.authenticatedCount + answer.toList.length := by
  have heq := authenticatedCount_set s c (.ofAccount? answer)
  cases answer with
  | none => exact authenticatedCount_set_le s c rfl
  | some a => exact Nat.le_of_add_right_le (Nat.le_of_eq heq)

/-- Nobody is logged in where there are no sessions. -/
theorem authenticatedCount_of_none (h : ∀ c, s.get? c = none) : s.authenticatedCount = 0 := by
  refine List.countP_eq_zero.mpr fun x hx => ?_
  obtain ⟨c, hc⟩ := KeyedList.mem_values_iff.mp hx
  have hnone : s.table.get? c = none := h c
  rw [hnone] at hc
  cases hc

/-! ### Operations -/

theorem authenticatedCount_connect (h : s.connect c = .ok s') :
    s'.authenticatedCount ≤ s.authenticatedCount := by
  rw [(connect_eq h).2]
  exact authenticatedCount_set_le s c rfl

/-- A login adds at most one. -/
theorem authenticatedCount_login {a : AccountId} (h : s.login c a = .ok s') :
    s'.authenticatedCount ≤ s.authenticatedCount + 1 := by
  rw [(login_eq h).2]
  exact authenticatedCount_answered s c (some a)

theorem authenticatedCount_logout {outcome : LogoutOutcome} (h : s.logout c = .ok (outcome, s')) :
    s'.authenticatedCount ≤ s.authenticatedCount := by
  rcases hc : s.get? c with - | - | a | t <;> simp only [logout, hc] at h <;> cases h
  · exact authenticatedCount_set_le s c rfl
  · exact authenticatedCount_set_le s c rfl

theorem authenticatedCount_disconnect (s : Sessions π) (c : ConnectionId) :
    (s.disconnect c).2.authenticatedCount ≤ s.authenticatedCount := by
  have herase : (s.table.erase c).values.countP Session.isAuthenticated ≤ s.authenticatedCount :=
    Nat.le_of_add_right_le (Nat.le_of_eq (KeyedList.countP_erase _ s.table c))
  rcases hc : s.get? c with - | - | a | t <;> simp only [disconnect, hc]
  · exact Nat.le_refl _
  · exact herase
  · exact herase
  · exact herase

/-- Whoever is released is logged out. -/
theorem authenticatedCount_release (s : Sessions π) (c : ConnectionId)
    (rival : Option ConnectionId) :
    (s.release c rival).authenticatedCount ≤ s.authenticatedCount := by
  cases rival with
  | none => exact Nat.le_refl _
  | some r =>
    simp only [release]
    split
    · exact Nat.le_refl _
    · exact authenticatedCount_set_le s r rfl

theorem authenticatedCount_present (s : Sessions π) (now : Nat) (c : ConnectionId) (t : String) :
    (s.present now c t).authenticatedCount ≤ s.authenticatedCount :=
  calc (s.present now c t).authenticatedCount
    _ = ((s.set c (.awaitingToken t)).release c (s.rendezvous.claimant? t)).authenticatedCount := rfl
    _ ≤ (s.set c (.awaitingToken t)).authenticatedCount := authenticatedCount_release ..
    _ ≤ s.authenticatedCount := authenticatedCount_set_le s c rfl

theorem authenticatedCount_expire (sink : Sink π ω) (s : Sessions π) (w : ω)
    (x : Expiry ConnectionId π) :
    (expire sink s w x).1.authenticatedCount ≤ s.authenticatedCount := by
  obtain ⟨t, c | p⟩ := x
  · simp only [expire]
    split
    · exact authenticatedCount_set_le s c rfl
    · exact Nat.le_refl _
  · exact Nat.le_refl _

theorem authenticatedCount_expireAll (sink : Sink π ω) (s : Sessions π) (w : ω)
    (expired : List (Expiry ConnectionId π)) :
    (expireAll sink s w expired).1.authenticatedCount ≤ s.authenticatedCount := by
  induction expired generalizing s w with
  | nil => exact Nat.le_refl _
  | cons x rest ih => exact Nat.le_trans (ih _ _) (authenticatedCount_expire sink s w x)

theorem authenticatedCount_sweep (s : Sessions π) (sink : Sink π ω) (w : ω) (now : Nat) :
    (s.sweep sink w now).2.1.authenticatedCount ≤ s.authenticatedCount :=
  authenticatedCount_expireAll sink (s.swept now) w (s.rendezvous.sweep now).2

end Sessions

end Lobby
