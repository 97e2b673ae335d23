/-
Lobby/Proofs/History.lean

Runs, step by step.

A run is a list of events that a step function takes up one after the other; `stateAt` is the state
that it is in before its `n`-th event.  `stateAt_induction` carries an invariant along a run, and
`exists_last_change` finds, for a property that holds now and did not hold at the start, the event
that brought it about for the last time: questions about a whole history become questions about one
step.  What is counted in a run is counted in its `history`, the list of its events with the states that
they come to.
-/
import Mathlib.Tactic.ByContra

namespace Lobby

variable {σ ε : Type} {step : σ → ε → σ} {s : σ} {events : List ε}

/-- The state of a run before its `n`-th event. -/
def stateAt (step : σ → ε → σ) (s : σ) (events : List ε) (n : Nat) : σ :=
  (events.take n).foldl step s

@[simp] theorem stateAt_zero : stateAt step s events 0 = s := rfl

/-- An event leads from the state before it to the state after it. -/
theorem stateAt_succ {n : Nat} {e : ε} (h : events[n]? = some e) :
    stateAt step s events (n + 1) = step (stateAt step s events n) e := by
  simp only [stateAt]
  rw [List.take_add_one, List.foldl_append, h]
  rfl

/-- At its length a run has come to its end. -/
theorem stateAt_length : stateAt step s events events.length = events.foldl step s := by
  simp only [stateAt]
  rw [List.take_length]

theorem exists_event_of_lt {n : Nat} (h : n < events.length) : ∃ e, events[n]? = some e :=
  ⟨events[n], List.getElem?_eq_getElem h⟩

/-- What holds at the start and is kept by every event of a run holds all along the run. -/
theorem stateAt_induction {P : σ → Prop} (start : P s)
    (kept : ∀ s, P s → ∀ e ∈ events, P (step s e)) (n : Nat) : P (stateAt step s events n) := by
  simp only [stateAt]
  have hsub : ∀ e ∈ events.take n, e ∈ events := fun e he => List.mem_of_mem_take he
  generalize events.take n = es at hsub
  induction es generalizing s with
  | nil => exact start
  | cons e es ih =>
    rw [List.foldl_cons]
    exact ih (kept s start e (hsub e (List.mem_cons_self ..)))
      fun e' he' => hsub e' (List.mem_cons_of_mem _ he')

/-- What holds at some time of a run, but not at its start, was brought about by an event since
which it has held. -/
theorem exists_last_change {P : σ → Prop} (start : ¬ P s) {n : Nat} (hn : n ≤ events.length)
    (now : P (stateAt step s events n)) :
    ∃ k e, k < n ∧ events[k]? = some e ∧ ¬ P (stateAt step s events k) ∧
      ∀ m, k < m → m ≤ n → P (stateAt step s events m) := by
  induction n with
  | zero => exact absurd now start
  | succ n ih =>
    by_cases before : P (stateAt step s events n)
    · obtain ⟨k, e, hk, he, hnot, hsince⟩ := ih (Nat.le_of_succ_le hn) before
      refine ⟨k, e, Nat.lt_succ_of_lt hk, he, hnot, fun m hkm hm => ?_⟩
      rcases Nat.lt_or_eq_of_le hm with hlt | rfl
      · exact hsince m hkm (Nat.le_of_lt_succ hlt)
      · exact now
    · obtain ⟨e, he⟩ := exists_event_of_lt hn
      refine ⟨n, e, Nat.lt_succ_self n, he, before, fun m hnm hm => ?_⟩
      obtain rfl : m = n + 1 := Nat.le_antisymm hm hnm
      exact now

/-- The events of a run, each with the state that it comes to. -/
def history (step : σ → ε → σ) (s : σ) : List ε → List (σ × ε)
  | [] => []
  | e :: events => (s, e) :: history step (step s e) events

/-- The history has the events of the run and no others. -/
theorem snd_mem_of_mem_history {x : σ × ε} (h : x ∈ history step s events) : x.2 ∈ events := by
  induction events generalizing s with
  | nil => cases h
  | cons e events ih =>
    rcases List.mem_cons.mp h with rfl | h
    · exact List.mem_cons_self ..
    · exact List.mem_cons_of_mem _ (ih h)

/-- What holds at the start and is kept by every event holds whenever an event comes. -/
theorem history_induction {P : σ → Prop} (start : P s) (kept : ∀ s e, P s → P (step s e)) :
    ∀ x ∈ history step s events, P x.1 := by
  induction events generalizing s with
  | nil => exact List.forall_mem_nil _
  | cons e events ih =>
    intro x hx
    rcases List.mem_cons.mp hx with rfl | hx
    · exact start
    · exact ih (kept s e start) x hx

end Lobby
