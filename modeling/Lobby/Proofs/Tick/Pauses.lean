/-
Lobby/Proofs/Tick/Pauses.lean

Schedules that are paused and run again.

Whether a schedule is paused can be told from what has happened, without looking at it: the last pause or
resumption decides (`pausedAfter`).  A schedule with a period is then in one of two states
(`Scheduler.running_or_paused`), and what was asked last says in which (`isPaused_run`).  Between a pause
and the next resumption nothing fires (`ticks_eq_nil_of_not_running`), at rate zero as well.
-/
import Lobby.Proofs.Tick.Course

namespace Lobby.Tick

/-- Whether a schedule is paused after some happenings: the last pause or resumption among them decides,
and without any it is what it was. -/
def pausedAfter (paused : Bool) : List Happening → Bool
  | [] => paused
  | .pause :: es => pausedAfter true es
  | .resume :: es => pausedAfter false es
  | .wait _ :: es => pausedAfter paused es
  | .delay _ :: es => pausedAfter paused es

/-- If nobody pauses it, a schedule that is not paused stays so. -/
theorem pausedAfter_of_not_mem {es : List Happening} (h : .pause ∉ es) :
    pausedAfter false es = false := by
  induction es with
  | nil => rfl
  | cons e es ih =>
    obtain ⟨hfirst, hrest⟩ := not_or.mp (List.mem_cons.not.mp h)
    cases e with
    | pause => exact absurd rfl hfirst
    | _ => exact ih hrest

/-- A schedule with a period runs or is paused. -/
theorem Scheduler.running_or_paused {s : Scheduler} {p : Nat} (h : s.period? = some p) :
    (s.isPaused = false ∧ ∃ d, s.schedule = .running p d) ∨
      (s.isPaused = true ∧ s.schedule = .paused p) := by
  rcases hs : s.schedule with - | ⟨q, d⟩ | q <;> simp_all [Scheduler.period?, Scheduler.isPaused]

theorem Scheduler.exists_running {s : Scheduler} {p : Nat} (h : s.period? = some p)
    (hpaused : s.isPaused = false) : ∃ d, s.schedule = .running p d := by
  rcases s.running_or_paused h with ⟨-, hrunning⟩ | ⟨hyes, -⟩
  · exact hrunning
  · cases hpaused.symm.trans hyes

theorem Scheduler.schedule_of_isPaused {s : Scheduler} {p : Nat} (h : s.period? = some p)
    (hpaused : s.isPaused = true) : s.schedule = .paused p := by
  rcases s.running_or_paused h with ⟨hno, -⟩ | ⟨-, hs⟩
  · cases hpaused.symm.trans hno
  · exact hs

namespace Course

variable {k k' : Course} {e : Happening} {es : List Happening} {tick : Option Info} {p d : Nat}

/-- A pause and a resumption are heeded at once, and nothing else matters. -/
theorem Turn.isPaused (h : Turn k e tick k') (hperiod : k.scheduler.period? = some p) :
    k'.scheduler.isPaused = pausedAfter k.scheduler.isPaused [e] := by
  cases h with
  | tick hs => simp only [Scheduler.isPaused, hs, pausedAfter]
  | nothingDue => rfl
  | delay => rfl
  | pause => rfl
  | pauseAgain hnot =>
    rcases Scheduler.running_or_paused hperiod with ⟨-, d, hs⟩ | ⟨hpaused, -⟩
    · exact absurd hs (hnot p d)
    · exact hpaused
  | resume => rfl
  | resumeAgain hnot =>
    rcases Scheduler.running_or_paused hperiod with ⟨hpaused, -⟩ | ⟨-, hs⟩
    · exact hpaused
    · exact absurd hs (hnot p)

/-- **What was asked last decides** whether a schedule with a period is paused. -/
theorem isPaused_run (hperiod : k.scheduler.period? = some p) (es : List Happening) :
    (k.run es).scheduler.isPaused = pausedAfter k.scheduler.isPaused es := by
  induction es generalizing k with
  | nil => rfl
  | cons e es ih =>
    have hturn := k.turn e
    have hrest := ih (hturn.period?.trans hperiod)
    rw [hturn.isPaused hperiod] at hrest
    cases e <;> exact hrest

/-- So a schedule that runs goes on until somebody pauses it. -/
theorem running_run (hs : k.scheduler.schedule = .running p d) (hpause : .pause ∉ es) :
    ∃ d', (k.run es).scheduler.schedule = .running p d' := by
  have hperiod : k.scheduler.period? = some p := by simp only [Scheduler.period?, hs]
  have hfirst : k.scheduler.isPaused = false := by simp only [Scheduler.isPaused, hs]
  refine Scheduler.exists_running ((period?_run k es).trans hperiod) ?_
  rw [isPaused_run hperiod, hfirst]
  exact pausedAfter_of_not_mem hpause

/-- Nothing fires until somebody resumes a schedule that does not run. -/
theorem ticks_eq_nil_of_not_running (h : ∀ p d, k.scheduler.schedule ≠ .running p d)
    (hresume : .resume ∉ es) : k.ticks es = [] := by
  induction es generalizing k with
  | nil => rfl
  | cons e es ih =>
    obtain ⟨hfirst, hrest⟩ := not_or.mp (List.mem_cons.not.mp hresume)
    have hturn := k.turn e
    rw [ticks_cons]
    generalize k.step e = k', k.tick? e = tick at hturn
    cases hturn with
    | tick hs => exact absurd hs (h _ _)
    | pause hs => exact absurd hs (h _ _)
    | resume => exact absurd rfl hfirst
    | resumeAgain => exact absurd rfl hfirst
    | nothingDue => exact ih h hrest
    | delay => exact ih h hrest
    | pauseAgain => exact ih h hrest

/-! ### What whole rows keep to -/

/-- A schedule with a period, not paused at first, heeds what is asked of it.  It is paused if the last
thing asked was a pause; then no tick fires, another pause changes nothing, and when it is resumed the next
tick is due one period later.  Otherwise it runs; then whoever waits has a tick, a pause leaves it paused,
and to resume it changes nothing. -/
structure Heeding (k : Course) (es : List Happening) (p : Nat) : Prop where
  paused : pausedAfter false es = true →
    (k.run es).scheduler.schedule = .paused p ∧ (∀ e, (k.run es).tick? e = none) ∧
      (k.run es).step .pause = k.run es ∧
      ((k.run es).step .resume).scheduler.schedule = .running p ((k.run es).now + p)
  running : pausedAfter false es = false →
    (∃ d, (k.run es).scheduler.schedule = .running p d) ∧
      (∀ t, ∃ i, (k.run es).tick? (.wait t) = some i) ∧
      ((k.run es).step .pause).scheduler.schedule = .paused p ∧
      (k.run es).step .resume = k.run es

theorem heeding (hfirst : k.scheduler.isPaused = false) (hperiod : k.scheduler.period? = some p)
    (es : List Happening) : Heeding k es p := by
  have hpaused : (k.run es).scheduler.isPaused = pausedAfter false es := by
    rw [isPaused_run hperiod, hfirst]
  have hlater := (period?_run k es).trans hperiod
  refine ⟨fun h => ?_, fun h => ?_⟩
  · have hs := Scheduler.schedule_of_isPaused hlater (hpaused.trans h)
    have hnot : ∀ q d, (k.run es).scheduler.schedule ≠ .running q d := by simp [hs]
    refine ⟨hs, tick?_of_not_running hnot, step_pause_of_not_running hnot, ?_⟩
    rw [step_resume_of_paused hs]
  · obtain ⟨d, hs⟩ := Scheduler.exists_running hlater (hpaused.trans h)
    refine ⟨⟨d, hs⟩, fun t => ?_, ?_, step_resume_of_not_paused (by simp [hs])⟩
    · simp only [tick?, Scheduler.fire_of_running hs, Option.map_some]
      exact ⟨_, rfl⟩
    · simp only [step, Scheduler.pause, hs]

end Course

end Lobby.Tick
