/-
Lobby/Proofs/Tick/Course.lean

Schedulers in use, happening by happening.

Whoever uses a scheduler waits for ticks, does something else for a while, pauses and resumes.  A
`Course` is a scheduler and the time, and a `Happening` takes both further.  Of the clock no more is
known than that it does not go back, and that a sleeper does not wake before the deadline that it sleeps
to (`Course.Admits`); how late it wakes is open, up to what sixty-four bits can count.

What a happening does is said once (`Course.Turn`).  Whatever the policy, ticks are numbered one after the
other, the period stays what it is, and without a period nothing fires.
-/
import Lobby.Proofs.History
import Lobby.Tick

namespace Lobby.Tick

/-! ### Settings -/

namespace Config

variable {c : Config} {p : Nat}

theorem rate_validated_le (c : Config) : c.validated.rate ≤ maxRate := by
  rw [validated]
  split
  · assumption
  · exact UInt32.le_refl _

theorem policy_validated (c : Config) : c.validated.policy = c.policy := by
  rw [validated]
  split <;> rfl

/-- A rate that is too high is not taken for none. -/
theorem rate_validated_eq_zero_iff : c.validated.rate = 0 ↔ c.rate = 0 := by
  rw [validated]
  split
  · exact .rfl
  · rename_i hhigh
    refine iff_of_false (show maxRate ≠ 0 by decide) ?_
    intro hzero
    rw [hzero] at hhigh
    exact hhigh (by decide)

/-- There is no time between ticks at rate zero, and at no other rate. -/
theorem period?_eq_none_iff : c.validated.period? = none ↔ c.rate = 0 := by
  rw [← rate_validated_eq_zero_iff, period?]
  split <;> simp_all

/-- The time between ticks is never nothing: there are at most a hundred in a second. -/
theorem period_pos (h : c.validated.period? = some p) : 0 < p := by
  simp only [period?] at h
  split at h
  · cases h
  · rename_i hrate
    cases h
    have hpos : 0 < c.validated.rate.toNat :=
      Nat.pos_of_ne_zero fun hzero => hrate (UInt32.toNat_inj.mp hzero)
    have hmax : c.validated.rate.toNat ≤ maxRate.toNat :=
      UInt32.le_iff_toNat_le.mp c.rate_validated_le
    exact Nat.div_pos (Nat.le_trans hmax (by decide)) hpos

end Config

/-! ### Courses -/

/-- What happens to a scheduler and to the time. -/
inductive Happening where
  /-- Somebody waits for a tick, and wakes at a time; if none is due at any time he gives up then. -/
  | wait (wake : Nat)
  /-- Something else is done, up to a time. -/
  | delay (later : Nat)
  | pause
  | resume

/-- A scheduler in its course, and what time it is. -/
structure Course where
  scheduler : Scheduler
  now : Nat

/-- The deadline after a tick that was due at one time and fired at another. -/
def Policy.next : Policy → (period deadline firedAt : Nat) → Nat
  | skip, period, _, firedAt => firedAt + period
  | drop, period, deadline, _ => deadline + period

/-- How many periods such a tick lets go. -/
def Policy.skipped : Policy → (period deadline firedAt : Nat) → Nat
  | skip, period, deadline, firedAt => (firedAt - deadline) / period % UInt64.size
  | drop, _, _, _ => 0

theorem Scheduler.isPaused_iff {s : Scheduler} :
    s.isPaused = true ↔ ∃ period, s.schedule = .paused period := by
  rcases h : s.schedule with - | ⟨p, d⟩ | p <;> simp [isPaused, h]

theorem Scheduler.fire_of_running {s : Scheduler} {period deadline : Nat}
    (h : s.schedule = .running period deadline) (firedAt : Nat) :
    s.fire firedAt = some
      (⟨s.fired + 1, firedAt, firedAt - deadline,
        s.config.policy.skipped period deadline firedAt⟩,
      { s with
        schedule := .running period (s.config.policy.next period deadline firedAt)
        fired := s.fired + 1 }) := by
  simp only [fire, h]
  rcases s.config.policy with - | - <;> rfl

theorem Scheduler.fire_of_not_running {s : Scheduler}
    (h : ∀ period deadline, s.schedule ≠ .running period deadline) (firedAt : Nat) :
    s.fire firedAt = none := by
  rcases hs : s.schedule with - | ⟨p, d⟩ | p
  · simp only [fire, hs]
  · exact absurd hs (h p d)
  · simp only [fire, hs]

namespace Course

/-- The tick that fires in a happening. -/
def tick? (k : Course) : Happening → Option Info
  | .wait wake => (k.scheduler.fire wake).map Prod.fst
  | _ => none

/-- The course after a happening. -/
def step (k : Course) : Happening → Course
  | .wait wake => ⟨((k.scheduler.fire wake).map Prod.snd).getD k.scheduler, wake⟩
  | .delay later => ⟨k.scheduler, later⟩
  | .pause => ⟨k.scheduler.pause, k.now⟩
  | .resume => ⟨k.scheduler.resume k.now, k.now⟩

/-- The course after a row of happenings. -/
def run (k : Course) (es : List Happening) : Course := es.foldl step k

/-- The ticks that fire in a row of happenings. -/
def ticks (k : Course) (es : List Happening) : List Info :=
  (history step k es).filterMap fun x => x.1.tick? x.2

/-- What a clock may do: it does not go back, and who sleeps to a deadline wakes there or later, by less
than 2⁶⁴ periods. -/
def Admits (k : Course) : Happening → Prop
  | .wait wake => k.now ≤ wake ∧ ∀ period deadline,
      k.scheduler.schedule = .running period deadline →
        deadline ≤ wake ∧ (wake - deadline) / period < UInt64.size
  | .delay later => k.now ≤ later
  | _ => True

instance (k : Course) : (e : Happening) → Decidable (k.Admits e)
  | .wait wake =>
    match hs : k.scheduler.schedule with
    | .running p d =>
      decidable_of_iff (k.now ≤ wake ∧ d ≤ wake ∧ (wake - d) / p < UInt64.size) (by simp [Admits, hs])
    | .paused _ => decidable_of_iff (k.now ≤ wake) (by simp [Admits, hs])
    | .disabled => decidable_of_iff (k.now ≤ wake) (by simp [Admits, hs])
  | .delay later => inferInstanceAs (Decidable (k.now ≤ later))
  | .pause => .isTrue trivial
  | .resume => .isTrue trivial

/-- A clock does what it may in a row of happenings. -/
def Admitted (k : Course) (es : List Happening) : Prop := ∀ x ∈ history step k es, x.1.Admits x.2

instance (k : Course) (es : List Happening) : Decidable (k.Admitted es) :=
  inferInstanceAs (Decidable (∀ x ∈ history step k es, x.1.Admits x.2))

variable {k k' : Course} {e : Happening} {es : List Happening} {tick : Option Info} {i : Info}
  {p q d : Nat}

theorem run_append (k : Course) (es later : List Happening) :
    k.run (es ++ later) = (k.run es).run later := List.foldl_append

theorem ticks_cons (k : Course) (e : Happening) (es : List Happening) :
    k.ticks (e :: es) = (k.tick? e).toList ++ (k.step e).ticks es := by
  simp only [ticks, history, List.filterMap_cons]
  cases k.tick? e <;> rfl

theorem admitted_cons : k.Admitted (e :: es) ↔ k.Admits e ∧ (k.step e).Admitted es :=
  List.forall_mem_cons

theorem admitted_append {later : List Happening} :
    k.Admitted (es ++ later) ↔ k.Admitted es ∧ (k.run es).Admitted later := by
  induction es generalizing k with
  | nil => exact (and_iff_right (List.forall_mem_nil _)).symm
  | cons e es ih =>
    rw [List.cons_append, admitted_cons, admitted_cons, ih, and_assoc]
    rfl

/-! ### One happening -/

/-- What a happening does to a course, and which tick fires in it. -/
inductive Turn (k : Course) : Happening → Option Info → Course → Prop where
  | tick {p d t : Nat} : k.scheduler.schedule = .running p d →
      Turn k (.wait t)
        (some ⟨k.scheduler.fired + 1, t, t - d, k.scheduler.config.policy.skipped p d t⟩)
        ⟨{ k.scheduler with
            schedule := .running p (k.scheduler.config.policy.next p d t)
            fired := k.scheduler.fired + 1 }, t⟩
  | nothingDue {t : Nat} : (∀ p d, k.scheduler.schedule ≠ .running p d) →
      Turn k (.wait t) none ⟨k.scheduler, t⟩
  | delay {t : Nat} : Turn k (.delay t) none ⟨k.scheduler, t⟩
  | pause {p d : Nat} : k.scheduler.schedule = .running p d →
      Turn k .pause none ⟨{ k.scheduler with schedule := .paused p }, k.now⟩
  | pauseAgain : (∀ p d, k.scheduler.schedule ≠ .running p d) → Turn k .pause none k
  | resume {p : Nat} : k.scheduler.schedule = .paused p →
      Turn k .resume none ⟨{ k.scheduler with schedule := .running p (k.now + p) }, k.now⟩
  | resumeAgain : (∀ p, k.scheduler.schedule ≠ .paused p) → Turn k .resume none k

theorem step_pause_of_not_running (h : ∀ p d, k.scheduler.schedule ≠ .running p d) :
    k.step .pause = k := by
  rcases hs : k.scheduler.schedule with - | ⟨p, d⟩ | p
  · simp only [step, Scheduler.pause, hs]
  · exact absurd hs (h p d)
  · simp only [step, Scheduler.pause, hs]

theorem step_wait_of_running (h : k.scheduler.schedule = .running p d) (t : Nat) :
    k.step (.wait t) = ⟨{ k.scheduler with
      schedule := .running p (k.scheduler.config.policy.next p d t)
      fired := k.scheduler.fired + 1 }, t⟩ := by
  simp only [step, Scheduler.fire_of_running h, Option.map_some, Option.getD_some]

/-- Nothing is due after a pause. -/
theorem not_running_step_pause (k : Course) :
    ∀ p d, (k.step .pause).scheduler.schedule ≠ .running p d := by
  intro p d
  rcases hs : k.scheduler.schedule with - | ⟨p', d'⟩ | p' <;>
    simp [step, Scheduler.pause, hs]

theorem step_resume_of_paused (h : k.scheduler.schedule = .paused p) :
    k.step .resume = ⟨{ k.scheduler with schedule := .running p (k.now + p) }, k.now⟩ := by
  simp only [step, Scheduler.resume, h]

theorem step_resume_of_not_paused (h : ∀ p, k.scheduler.schedule ≠ .paused p) :
    k.step .resume = k := by
  rcases hs : k.scheduler.schedule with - | ⟨p, d⟩ | p
  · simp only [step, Scheduler.resume, hs]
  · simp only [step, Scheduler.resume, hs]
  · exact absurd hs (h p)

/-- **Every happening is one of the turns.** -/
theorem turn (k : Course) (e : Happening) : Turn k e (k.tick? e) (k.step e) := by
  have hrunning : (∃ p d, k.scheduler.schedule = .running p d) ∨
      ∀ p d, k.scheduler.schedule ≠ .running p d := by
    rcases k.scheduler.schedule with - | ⟨p, d⟩ | p
    · exact .inr fun _ _ => nofun
    · exact .inl ⟨p, d, rfl⟩
    · exact .inr fun _ _ => nofun
  cases e with
  | wait t =>
    rcases hrunning with ⟨p, d, h⟩ | h
    · rw [step_wait_of_running h]
      simp only [tick?, Scheduler.fire_of_running h]
      exact .tick h
    · simp only [tick?, step, Scheduler.fire_of_not_running h]
      exact .nothingDue h
  | delay t => exact .delay
  | pause =>
    rcases hrunning with ⟨p, d, h⟩ | h
    · simp only [tick?, step, Scheduler.pause, h]
      exact .pause h
    · rw [step_pause_of_not_running h]
      exact .pauseAgain h
  | resume =>
    by_cases h : ∃ p, k.scheduler.schedule = .paused p
    · obtain ⟨p, h⟩ := h
      rw [step_resume_of_paused h]
      exact .resume h
    · have hnot : ∀ p, k.scheduler.schedule ≠ .paused p := fun p hp => h ⟨p, hp⟩
      rw [step_resume_of_not_paused hnot]
      exact .resumeAgain hnot

namespace Turn

/-- The settings stay as they are. -/
theorem config (h : Turn k e tick k') : k'.scheduler.config = k.scheduler.config := by
  cases h <;> rfl

/-- So does the time between ticks. -/
theorem period? (h : Turn k e tick k') : k'.scheduler.period? = k.scheduler.period? := by
  cases h with
  | tick hs => simp only [Scheduler.period?, hs]
  | pause hs => simp only [Scheduler.period?, hs]
  | resume hs => simp only [Scheduler.period?, hs]
  | _ => rfl

/-- A tick has the number after those that have fired. -/
theorem number (h : Turn k e (some i) k') :
    i.number = k.scheduler.fired + 1 ∧ k'.scheduler.fired = k.scheduler.fired + 1 := by
  cases h
  exact ⟨rfl, rfl⟩

/-- No other happening counts as a tick. -/
theorem fired (h : Turn k e none k') : k'.scheduler.fired = k.scheduler.fired := by
  cases h <;> rfl

/-- A tick fires when somebody waits for it while the schedule runs, and tells how late it is. -/
theorem due (h : Turn k e (some i) k') :
    ∃ p d, k.scheduler.schedule = .running p d ∧ e = .wait i.firedAt ∧
      i.lateBy = i.firedAt - d := by
  cases h with
  | @tick p d t hs => exact ⟨p, d, hs, rfl, rfl⟩

end Turn

/-- On a clock that wakes nobody too early no tick fires before its deadline. -/
theorem due_of_tick (hadmits : k.Admits e) (hi : k.tick? e = some i) :
    ∃ p d, k.scheduler.schedule = .running p d ∧ d ≤ i.firedAt ∧ i.lateBy = i.firedAt - d := by
  have hturn := k.turn e
  rw [hi] at hturn
  obtain ⟨p, d, hs, rfl, hlate⟩ := hturn.due
  exact ⟨p, d, hs, (hadmits.2 p d hs).1, hlate⟩

/-- Only a schedule that runs fires. -/
theorem tick?_of_not_running (h : ∀ p d, k.scheduler.schedule ≠ .running p d) (e : Happening) :
    k.tick? e = none := by
  have hturn := k.turn e
  rcases htick : k.tick? e with - | i
  · rfl
  · rw [htick] at hturn
    obtain ⟨p, d, hs, -⟩ := hturn.due
    exact absurd hs (h p d)

theorem not_running_of_no_period (h : k.scheduler.period? = none) :
    ∀ p d, k.scheduler.schedule ≠ .running p d := by
  intro p d hs
  simp [Scheduler.period?, hs] at h

/-- Without a period there is nothing to pause or to resume. -/
theorem step_of_no_period (h : k.scheduler.period? = none) : k.step .pause = k ∧ k.step .resume = k := by
  refine ⟨step_pause_of_not_running (not_running_of_no_period h), step_resume_of_not_paused ?_⟩
  intro p hs
  simp [Scheduler.period?, hs] at h

/-! ### All that fires -/

theorem period?_run (k : Course) (es : List Happening) :
    (k.run es).scheduler.period? = k.scheduler.period? := by
  induction es generalizing k with
  | nil => rfl
  | cons e es ih => exact (ih (k.step e)).trans (k.turn e).period?

theorem config_run (k : Course) (es : List Happening) :
    (k.run es).scheduler.config = k.scheduler.config := by
  induction es generalizing k with
  | nil => rfl
  | cons e es ih => exact (ih (k.step e)).trans (k.turn e).config

theorem period_of_running (h : k.scheduler.period? = some p)
    (hs : k.scheduler.schedule = .running q d) : q = p := by
  simp only [Scheduler.period?, hs] at h
  exact Option.some.inj h

theorem period_of_paused (h : k.scheduler.period? = some p)
    (hs : k.scheduler.schedule = .paused q) : q = p := by
  simp only [Scheduler.period?, hs] at h
  exact Option.some.inj h

/-- Ticks are numbered one after the other. -/
theorem numbers (k : Course) (es : List Happening) :
    (k.ticks es).map Info.number = List.range' (k.scheduler.fired + 1) (k.ticks es).length := by
  induction es generalizing k with
  | nil => rfl
  | cons e es ih =>
    have hturn := k.turn e
    rw [ticks_cons, List.map_append, ih, List.length_append]
    rcases htick : k.tick? e with - | i <;> rw [htick] at hturn
    · rw [hturn.fired, Option.toList_none, List.map_nil, List.nil_append, List.length_nil,
        Nat.zero_add]
    · obtain ⟨hnumber, hfired⟩ := hturn.number
      rw [hfired, Option.toList_some, List.map_singleton, hnumber, List.singleton_append,
        List.length_singleton, Nat.add_comm 1, List.range'_succ]

/-- Without a period no tick ever fires. -/
theorem ticks_eq_nil (h : k.scheduler.period? = none) (es : List Happening) : k.ticks es = [] := by
  induction es generalizing k with
  | nil => rfl
  | cons e es ih =>
    rw [ticks_cons, tick?_of_not_running (not_running_of_no_period h) e]
    exact ih ((k.turn e).period?.trans h)

end Course

end Lobby.Tick
