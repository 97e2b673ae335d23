/-
Lobby/Proofs/Tick/Waits.lean

Waits that are given up.

On a clock that shows whole milliseconds, a wait up to a limit looks at each of them, and the tick fires at
the first one at which it is due (`Scheduler.Waited`).  Nothing is written down before that, and a deadline
is an instant and not a stretch of time.  So whoever gives up and waits again looks at the clock when he
would have looked at it anyway (`Waited.resumed`), and it does not matter into which pieces a wait is cut
(`awaitPieces_eq`), nor how often that is done (`awaitEach_eq`).

Main result: `abandoned_waits_cost_nothing`.
-/
import Lobby.Proofs.Tick.Keeping
import Mathlib.Algebra.GroupWithZero.Nat
import Mathlib.Data.Nat.Find

namespace Lobby.Tick

/-! ### Whole milliseconds -/

/-- A whole millisecond is past the one in which a sleeper wakes exactly if it is past his deadline. -/
theorem wholeMilli_le_iff {t n : Nat} :
    wholeMilli t ≤ n * nanosPerMilli ↔ t ≤ n * nanosPerMilli := by
  simp only [wholeMilli, nanosPerMilli]
  omega

theorem wakeTime_le_iff {m n deadline : Nat} (h : m ≤ n) :
    wakeTime (m * nanosPerMilli) deadline ≤ n * nanosPerMilli ↔ deadline ≤ n * nanosPerMilli := by
  have hmn : m * nanosPerMilli ≤ n * nanosPerMilli := Nat.mul_le_mul_right _ h
  rw [wakeTime]
  split
  · rename_i hpassed
    exact iff_of_true hmn (Nat.le_trans hpassed hmn)
  · exact wholeMilli_le_iff

/-- Whoever lies down at a whole millisecond wakes at one. -/
theorem exists_wakeTime_eq (m deadline : Nat) :
    ∃ k, wakeTime (m * nanosPerMilli) deadline = (m + k) * nanosPerMilli := by
  have hlater := (Course.le_wakeTime (m * nanosPerMilli) deadline).1
  rw [wakeTime] at hlater ⊢
  split at hlater
  · rename_i hpassed
    exact ⟨0, by rw [if_pos hpassed, Nat.add_zero]⟩
  · rename_i hahead
    rw [if_neg hahead]
    rw [wholeMilli] at hlater ⊢
    have hle := Nat.le_of_mul_le_mul_right hlater (by decide : 0 < nanosPerMilli)
    obtain ⟨k, hk⟩ := Nat.exists_eq_add_of_le hle
    exact ⟨k, by rw [hk]⟩

namespace Scheduler

variable {s s' : Scheduler} {m a b k limit : Nat} {i : Info} {limits : List Nat}
  {r : Option Info × Scheduler × Nat}

/-! ### Looking at the clock -/

/-- A tick is due: the schedule runs, and the deadline has come. -/
def Due (s : Scheduler) (t : Nat) : Prop := ∃ p d, s.schedule = .running p d ∧ d ≤ t

theorem Due.mono {t u : Nat} (h : s.Due t) (htu : t ≤ u) : s.Due u := by
  obtain ⟨p, d, hs, hd⟩ := h
  exact ⟨p, d, hs, Nat.le_trans hd htu⟩

/-- What comes of a wait from a whole millisecond on: the tick fires at the first whole millisecond at which
it is due, or it is not due until the limit, and then nothing has changed but the time. -/
inductive Waited (s : Scheduler) (m limit : Nat) : Option Info × Scheduler × Nat → Prop where
  | fired {k : Nat} {i : Info} {s' : Scheduler} :
      k ≤ limit → s.Due ((m + k) * nanosPerMilli) →
      (∀ j < k, ¬ s.Due ((m + j) * nanosPerMilli)) →
      s.fire ((m + k) * nanosPerMilli) = some (i, s') →
      Waited s m limit (some i, s', (m + k) * nanosPerMilli)
  | abandoned : ¬ s.Due ((m + limit) * nanosPerMilli) →
      Waited s m limit (none, s, (m + limit) * nanosPerMilli)

theorem await_of_not_due (h : ¬ s.Due ((m + limit) * nanosPerMilli)) :
    s.await (m * nanosPerMilli) limit = (none, s, (m + limit) * nanosPerMilli) := by
  rw [Course.await_of_not_due, ← Nat.add_mul]
  intro p d hs
  rw [← Nat.add_mul]
  refine Nat.lt_of_not_le fun hwake => h ⟨p, d, hs, ?_⟩
  exact (wakeTime_le_iff (Nat.le_add_right m limit)).mp hwake

theorem await_of_first_due (hk : k ≤ limit) (hdue : s.Due ((m + k) * nanosPerMilli))
    (hfirst : ∀ j < k, ¬ s.Due ((m + j) * nanosPerMilli))
    (hfire : s.fire ((m + k) * nanosPerMilli) = some (i, s')) :
    s.await (m * nanosPerMilli) limit = (some i, s', (m + k) * nanosPerMilli) := by
  obtain ⟨p, d, hs, hd⟩ := hdue
  -- he wakes at a whole millisecond, not after this one and not before it
  have hwake : wakeTime (m * nanosPerMilli) d = (m + k) * nanosPerMilli := by
    have hle := (wakeTime_le_iff (Nat.le_add_right m k)).mpr hd
    have hpassed := (Course.le_wakeTime (m * nanosPerMilli) d).2
    obtain ⟨j, hj⟩ := exists_wakeTime_eq m d
    rw [hj] at hle hpassed ⊢
    have hjk : j ≤ k :=
      Nat.le_of_add_le_add_left (Nat.le_of_mul_le_mul_right hle (by decide))
    rcases Nat.lt_or_eq_of_le hjk with hlt | rfl
    · exact absurd ⟨p, d, hs, hpassed⟩ (hfirst j hlt)
    · rfl
  have hlimit : (m + k) * nanosPerMilli ≤ m * nanosPerMilli + limit * nanosPerMilli := by
    rw [← Nat.add_mul]
    exact Nat.mul_le_mul_right _ (Nat.add_le_add_left hk m)
  simp only [await, hs, hwake, if_pos hlimit, hfire]

theorem exists_fire_of_due {t : Nat} (h : s.Due t) : ∃ i s', s.fire t = some (i, s') := by
  obtain ⟨p, d, hs, -⟩ := h
  exact ⟨_, _, fire_of_running hs t⟩

/-- What is due by the limit is due for the first time at some whole millisecond. -/
theorem exists_first_due (h : s.Due ((m + limit) * nanosPerMilli)) :
    ∃ k ≤ limit, s.Due ((m + k) * nanosPerMilli) ∧
      ∀ j < k, ¬ s.Due ((m + j) * nanosPerMilli) := by
  classical
  have hex : ∃ k, s.Due ((m + k) * nanosPerMilli) := ⟨limit, h⟩
  exact ⟨Nat.find hex, Nat.find_min' hex h, Nat.find_spec hex, fun j => Nat.find_min hex⟩

/-- **Waiting is looking at every whole millisecond.** -/
theorem waited_iff : s.Waited m limit r ↔ s.await (m * nanosPerMilli) limit = r := by
  constructor
  · rintro (⟨hk, hdue, hfirst, hfire⟩ | ⟨hnot⟩)
    · exact await_of_first_due hk hdue hfirst hfire
    · exact await_of_not_due hnot
  · rintro rfl
    by_cases hdue : s.Due ((m + limit) * nanosPerMilli)
    · obtain ⟨k, hk, hdue, hfirst⟩ := exists_first_due hdue
      obtain ⟨i, s', hfire⟩ := exists_fire_of_due hdue
      rw [await_of_first_due hk hdue hfirst hfire]
      exact .fired hk hdue hfirst hfire
    · rw [await_of_not_due hdue]
      exact .abandoned hdue

theorem waited (s : Scheduler) (m limit : Nat) :
    s.Waited m limit (s.await (m * nanosPerMilli) limit) := waited_iff.mpr rfl

/-! ### Waiting again -/

/-- Whoever waits again, after nothing was due, gets what he would have got if he had gone on waiting. -/
theorem Waited.resumed (hnot : ¬ s.Due ((m + a) * nanosPerMilli)) (h : s.Waited (m + a) b r) :
    s.Waited m (a + b) r := by
  cases h with
  | @fired k i s' hk hdue hfirst hfire =>
    rw [Nat.add_assoc] at hdue hfire ⊢
    refine .fired (Nat.add_le_add_left hk a) hdue ?_ hfire
    intro j hj hdue'
    rcases Nat.lt_or_ge a j with hlater | hearlier
    · obtain ⟨l, rfl⟩ := Nat.exists_eq_add_of_le (Nat.le_of_lt hlater)
      rw [← Nat.add_assoc] at hdue'
      exact hfirst l (Nat.lt_of_add_lt_add_left hj) hdue'
    · exact hnot (hdue'.mono (Nat.mul_le_mul_right _ (Nat.add_le_add_left hearlier m)))
  | abandoned hnot' =>
    rw [Nat.add_assoc] at hnot' ⊢
    exact .abandoned hnot'

/-- Once a tick has fired, a limit that is further off makes no difference. -/
theorem await_of_fired (h : s.await (m * nanosPerMilli) a = r) (hfired : r.1 ≠ none) (b : Nat) :
    s.await (m * nanosPerMilli) (a + b) = r := by
  cases waited_iff.mpr h with
  | fired hk hdue hfirst hfire =>
    exact await_of_first_due (Nat.le_trans hk (Nat.le_add_right a b)) hdue hfirst hfire
  | abandoned => exact absurd rfl hfired

/-- A wait that is given up leaves the scheduler as it is, and going on with it is one wait. -/
theorem await_of_abandoned (h : (s.await (m * nanosPerMilli) a).1 = none) :
    s.await (m * nanosPerMilli) a = (none, s, (m + a) * nanosPerMilli) ∧
      ∀ b, s.await ((m + a) * nanosPerMilli) b = s.await (m * nanosPerMilli) (a + b) := by
  have hwaited := s.waited m a
  generalize hr : s.await (m * nanosPerMilli) a = r at h hwaited
  cases hwaited with
  | fired => cases h
  | abandoned hnot =>
    refine ⟨rfl, ?_⟩
    intro b
    exact (waited_iff.mp ((s.waited (m + a) b).resumed hnot)).symm

/-! ### Waits in pieces -/

/-- A wait in pieces: each of them is given up at its limit, and the first one in which a tick fires is the
last. -/
def awaitPieces (s : Scheduler) (now : Nat) : List Nat → Option Info × Scheduler × Nat
  | [] => (none, s, now)
  | limit :: limits =>
    match s.await now limit with
    | (none, s, now) => s.awaitPieces now limits
    | (some i, s, now) => (some i, s, now)

/-- **The pieces of a wait are one wait** for as long as all of them together. -/
theorem awaitPieces_eq (s : Scheduler) (m : Nat) (hsome : limits ≠ []) :
    s.awaitPieces (m * nanosPerMilli) limits = s.await (m * nanosPerMilli) limits.sum := by
  induction limits generalizing m with
  | nil => exact absurd rfl hsome
  | cons a limits ih =>
    rw [List.sum_cons, awaitPieces]
    rcases hfirst : s.await (m * nanosPerMilli) a with ⟨- | i, s', now⟩
    · obtain ⟨heq, hresumed⟩ := await_of_abandoned (congrArg Prod.fst hfirst)
      cases hfirst.symm.trans heq
      show s.awaitPieces ((m + a) * nanosPerMilli) limits = _
      rcases limits with - | ⟨b, limits⟩
      · exact heq.symm
      · rw [ih (m + a) (List.cons_ne_nil b limits), hresumed]
    · exact (await_of_fired hfirst nofun limits.sum).symm

/-- Waits one after the other, each of them in pieces, and the ticks that fire. -/
def awaitEach (s : Scheduler) (now : Nat) : List (List Nat) → List Info × Scheduler × Nat
  | [] => ([], s, now)
  | limits :: waits =>
    let (tick, s, now) := s.awaitPieces now limits
    let (ticks, s, now) := s.awaitEach now waits
    (tick.toList ++ ticks, s, now)

/-- A wait that begins at a whole millisecond ends at one. -/
theorem exists_await_eq (s : Scheduler) (m limit : Nat) :
    ∃ k, (s.await (m * nanosPerMilli) limit).2.2 = (m + k) * nanosPerMilli := by
  have hwaited := s.waited m limit
  generalize s.await (m * nanosPerMilli) limit = r at hwaited
  cases hwaited with
  | fired => exact ⟨_, rfl⟩
  | abandoned => exact ⟨_, rfl⟩

/-- However the waits of a row are cut, the same ticks fire. -/
theorem awaitEach_eq (s : Scheduler) (m : Nat) {waits : List (List Nat)}
    (hsome : ∀ limits ∈ waits, limits ≠ []) :
    s.awaitEach (m * nanosPerMilli) waits
      = s.awaitEach (m * nanosPerMilli) (waits.map fun limits => [limits.sum]) := by
  induction waits generalizing s m with
  | nil => rfl
  | cons limits waits ih =>
    obtain ⟨hfirst, hrest⟩ := List.forall_mem_cons.mp hsome
    obtain ⟨k, hk⟩ := s.exists_await_eq m limits.sum
    simp only [List.map_cons, awaitEach, awaitPieces_eq s m hfirst,
      awaitPieces_eq s m (List.cons_ne_nil limits.sum []), List.sum_singleton, hk]
    rw [ih _ (m + k) hrest]

/-- **Waits that are given up cost nothing.**  Whatever the policy is, and whether the schedule runs, is
paused or is disabled, from any whole millisecond on and for any limits:

* a wait that is given up leaves the scheduler as it is, and a wait after it comes to what one wait for both
  limits comes to: the same tick or none, the same scheduler and the same time;
* so does a wait in any number of pieces, each of which is given up until a tick fires;
* and of waits one after the other, each cut into any pieces, the ticks are those of the waits uncut. -/
theorem abandoned_waits_cost_nothing (s : Scheduler) (m a b : Nat) :
    let now := m * nanosPerMilli
    let first := s.await now a
    (first.1 = none →
      first.2.1 = s ∧ first.2.1.await first.2.2 b = s.await now (a + b)) ∧
    (∀ limits, limits ≠ [] → s.awaitPieces now limits = s.await now limits.sum) ∧
    ∀ waits, (∀ limits ∈ waits, limits ≠ []) →
      s.awaitEach now waits = s.awaitEach now (waits.map fun limits => [limits.sum]) := by
  intro now first
  refine ⟨?_, fun limits => s.awaitPieces_eq m, fun waits => s.awaitEach_eq m⟩
  intro hnone
  obtain ⟨heq, hresumed⟩ := await_of_abandoned hnone
  rw [show first = _ from heq]
  exact ⟨rfl, hresumed b⟩

/-- At three hertz a tick is due a third of a millisecond after 333 of them.  Three waits in a row are given
up, the last one just before it is due, and it fires at the limit of the fourth. -/
theorem tick_fires_in_the_fourth_piece :
    let s := create 0 0 ⟨3, .skip, 0⟩
    (s.await (0 * nanosPerMilli) 333).1 = none ∧
      s.await (333 * nanosPerMilli) 1 = s.await (0 * nanosPerMilli) 334 ∧
      (s.awaitPieces (0 * nanosPerMilli) [300, 0, 33, 1]).1
        = some ⟨1, 334 * nanosPerMilli, 666667, 0⟩ := by
  intro s
  obtain ⟨hagain, hpieces, -⟩ := abandoned_waits_cost_nothing s 0 333 1
  have hnone : (s.await (0 * nanosPerMilli) 333).1 = none := by decide
  have hfirst : s.await (0 * nanosPerMilli) 333 = (none, s, 333 * nanosPerMilli) := by decide
  obtain ⟨-, hone⟩ := hagain hnone
  rw [hfirst] at hone
  refine ⟨hnone, hone, ?_⟩
  rw [hpieces [300, 0, 33, 1] (by decide)]
  decide

end Scheduler

end Lobby.Tick
