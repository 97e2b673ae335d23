/-
Lobby/Proofs/Tick/Keeping.lean

Ticks keep time.

A scheduler is created, and from then on waited for, kept waiting, paused and resumed.  The grid of periods
that its ticks keep to under the policy `drop` begins with the creation, and begins anew whenever a paused
schedule is resumed (`Base`).  To wait up to a limit is a wait like any other, or no more than a delay
(`await_eq`).

Main result: `ticks_keep_time`.
-/
import Lobby.Proofs.Tick.Drop
import Lobby.Proofs.Tick.Skip

namespace Lobby.Tick.Course

variable {es : List Happening} {b p : Nat}

/-! ### From the creation on -/

/-- A scheduler that has just been created, with nothing put off. -/
def created (now : Nat) (config : Config) : Course := ⟨.create now 0 config, now⟩

theorem period?_created (now : Nat) (config : Config) :
    (created now config).scheduler.period? = config.validated.period? := by
  rcases h : config.validated.period? with - | p <;>
    simp only [created, Scheduler.create, h] <;> rfl

theorem config_created (now : Nat) (config : Config) :
    (created now config).scheduler.config = config.validated := by
  rcases h : config.validated.period? with - | p <;> simp only [created, Scheduler.create, h]

theorem isPaused_created (now : Nat) (config : Config) :
    (created now config).scheduler.isPaused = false := by
  rcases h : config.validated.period? with - | p <;>
    simp only [created, Scheduler.create, h, Scheduler.isPaused]

theorem fired_created (now : Nat) (config : Config) : (created now config).scheduler.fired = 0 := by
  rcases h : config.validated.period? with - | p <;> simp only [created, Scheduler.create, h]

/-- The instants on which the grid begins: that of the creation, and those at which a schedule runs
again that was paused.  The row of happenings is the one up to there. -/
inductive Base (k : Course) : List Happening → Nat → Prop where
  | creation : Base k [] k.now
  | resumption {es : List Happening} :
      (k.run es).Resumes .resume → Base k (es ++ [.resume]) (k.run es).now

/-- At the beginning of a grid nothing of it has fired. -/
theorem paced_of_base {now : Nat} {config : Config} (hpolicy : config.policy = .drop)
    (hperiod : config.validated.period? = some p) (h : Base (created now config) es b) :
    Paced p b 0 ((created now config).run es) := by
  have hdrop : (created now config).scheduler.config.policy = .drop := by
    rw [config_created, Config.policy_validated, hpolicy]
  have hcreated := (period?_created now config).trans hperiod
  refine ⟨by rw [config_run, hdrop], (period?_run _ es).trans hcreated, ?_, ?_⟩
  · rw [Nat.zero_mul]
    cases h with
    | creation => exact Nat.le_refl _
    | resumption =>
      rw [run_append]
      exact Nat.le_refl _
  · rw [Nat.zero_add, Nat.one_mul]
    cases h with
    | creation =>
      intro q d hs
      simp only [run, List.foldl_nil, created, Scheduler.create, hperiod] at hs
      obtain ⟨rfl, rfl⟩ := Schedule.running.inj hs
      rfl
    | @resumption es hresumes =>
      intro q d hs
      obtain ⟨p', hpaused⟩ := Scheduler.isPaused_iff.mp hresumes.2
      have hsame := (period?_run _ es).trans hcreated
      rw [run_append] at hs
      change (((created now config).run es).step .resume).scheduler.schedule = _ at hs
      rw [step_resume_of_paused hpaused] at hs
      obtain ⟨rfl, rfl⟩ := Schedule.running.inj hs
      rw [period_of_paused hsame hpaused]

/-- At the beginning of a grid the schedule is not paused. -/
theorem isPaused_of_base {now : Nat} {config : Config} (h : Base (created now config) es b) :
    ((created now config).run es).scheduler.isPaused = false := by
  cases h with
  | creation => exact isPaused_created now config
  | @resumption es hresumes =>
    obtain ⟨q, hpaused⟩ := Scheduler.isPaused_iff.mp hresumes.2
    rw [run_append]
    show (((created now config).run es).step .resume).scheduler.isPaused = false
    rw [step_resume_of_paused hpaused]
    rfl

/-! ### Waiting up to a limit -/

theorem le_wakeTime (now deadline : Nat) :
    now ≤ wakeTime now deadline ∧ deadline ≤ wakeTime now deadline := by
  rw [wakeTime]
  split
  · exact ⟨Nat.le_refl _, ‹_›⟩
  · simp only [wholeMilli, nanosPerMilli]
    omega

/-- Nothing fires up to a limit if nothing is due by then. -/
theorem await_of_not_due {s : Scheduler} {now limitMillis : Nat}
    (h : ∀ p d, s.schedule = .running p d → now + limitMillis * nanosPerMilli < wakeTime now d) :
    s.await now limitMillis = (none, s, now + limitMillis * nanosPerMilli) := by
  rcases hs : s.schedule with - | ⟨p, d⟩ | p
  · simp only [Scheduler.await, hs]
  · simp only [Scheduler.await, hs, if_neg (Nat.not_le_of_lt (h p d hs))]
  · simp only [Scheduler.await, hs]

/-- Waiting up to a limit is a wait, or it is given up at the limit; the clock does what it may, unless
the next tick is too late to be counted. -/
theorem await_eq (k : Course) (limitMillis : Nat) :
    let result := k.scheduler.await k.now limitMillis
    ∃ e, k.tick? e = result.1 ∧ k.step e = ⟨result.2.1, result.2.2⟩ ∧
      (k.Admits e ∨ ∃ p d, k.scheduler.schedule = .running p d ∧
        UInt64.size ≤ (wakeTime k.now d - d) / p) := by
  intro result
  by_cases hfires : ∃ p d, k.scheduler.schedule = .running p d ∧
      wakeTime k.now d ≤ k.now + limitMillis * nanosPerMilli
  · obtain ⟨p, d, hs, hlimit⟩ := hfires
    obtain ⟨hnow, hdue⟩ := le_wakeTime k.now d
    refine ⟨.wait (wakeTime k.now d), ?_, ?_, ?_⟩
    · simp only [tick?, result, Scheduler.await, hs, if_pos hlimit, Scheduler.fire_of_running hs,
        Option.map_some]
    · simp only [step, result, Scheduler.await, hs, if_pos hlimit, Scheduler.fire_of_running hs,
        Option.map_some, Option.getD_some]
    · by_cases hbound : (wakeTime k.now d - d) / p < UInt64.size
      · refine .inl ⟨hnow, ?_⟩
        intro p' d' hs'
        obtain ⟨rfl, rfl⟩ := Schedule.running.inj (hs.symm.trans hs')
        exact ⟨hdue, hbound⟩
      · exact .inr ⟨p, d, hs, Nat.le_of_not_lt hbound⟩
  · have hnone : result = (none, k.scheduler, k.now + limitMillis * nanosPerMilli) :=
      await_of_not_due fun p d hs => Nat.lt_of_not_le fun hle => hfires ⟨p, d, hs, hle⟩
    rw [hnone]
    exact ⟨.delay _, rfl, rfl, .inl (Nat.le_add_right ..)⟩

/-! ### Keeping time -/

/-- **Ticks keep time.**  A scheduler is created with any settings and put off by nothing, and is waited
for, kept waiting, paused and resumed in any order, on any clock that does not go back and wakes nobody too
early.  Then:

* the time between ticks is what it was at the creation, and never nothing;
* ticks are numbered from one on, without a gap, whether the schedule is paused between them or not;
* a tick fires while the schedule runs and not before its deadline, and tells how late it is; at rate
  zero none ever fires;
* whether the schedule is paused depends on which of the two was asked last, a pause or a resumption
  (`Heeding`), and between a pause and the next resumption no tick fires;
* under the policy `skip` ticks are a period apart and count what they let go (`Skipping`);
* under the policy `drop` ticks stay on the grid of periods that begins with the creation or with the last
  resumption, and none is lost (`Dropping`);
* whoever pauses again, resumes what is not paused, or does either at rate zero, changes nothing. -/
theorem ticks_keep_time (now : Nat) (config : Config) {es : List Happening}
    (hadmitted : (created now config).Admitted es) :
    let start := created now config
    let k := start.run es
    (k.scheduler.period? = config.validated.period? ∧
      ∀ p, k.scheduler.period? = some p → 0 < p) ∧
    (start.ticks es).map Info.number = List.range' 1 (start.ticks es).length ∧
    (∀ x ∈ history step start es, ∀ i, x.1.tick? x.2 = some i →
      ∃ p d, x.1.scheduler.schedule = .running p d ∧ d ≤ i.firedAt ∧ i.lateBy = i.firedAt - d) ∧
    (config.rate = 0 → start.ticks es = []) ∧
    (∀ p, k.scheduler.period? = some p → Heeding start es p) ∧
    (∀ before between after, es = before ++ .pause :: (between ++ after) → .resume ∉ between →
      (start.run (before ++ [.pause])).ticks between = []) ∧
    (config.policy = .skip → ∀ p, k.scheduler.period? = some p → Skipping start es p) ∧
    (config.policy = .drop → ∀ p, k.scheduler.period? = some p →
      ∀ before after b, es = before ++ after → Base start before b →
        (∀ x ∈ history step (start.run before) after, ¬ x.1.Resumes x.2) →
        Dropping (start.run before) after p b) ∧
    (k.step .pause).step .pause = k.step .pause ∧
    (k.scheduler.isPaused = false → k.step .resume = k) ∧
    (config.rate = 0 → k.step .pause = k ∧ k.step .resume = k) := by
  intro start k
  have hperiod : k.scheduler.period? = config.validated.period? :=
    (period?_run start es).trans (period?_created now config)
  have hpos : ∀ p, k.scheduler.period? = some p → 0 < p := fun p hp =>
    Config.period_pos (hperiod.symm.trans hp)
  have hpolicy : start.scheduler.config.policy = config.policy := by
    rw [config_created, Config.policy_validated]
  have hnone : config.rate = 0 → k.scheduler.period? = none := fun hrate =>
    hperiod.trans (Config.period?_eq_none_iff.mpr hrate)
  refine ⟨⟨hperiod, hpos⟩, ?_, ?_, ?_, ?_, ?_, ?_, ?_, ?_, ?_, ?_⟩
  · have hnumbers := numbers start es
    rwa [fired_created] at hnumbers
  · exact fun x hx i hi => due_of_tick (hadmitted x hx) hi
  · intro hrate
    exact ticks_eq_nil ((period?_run start es).symm.trans (hnone hrate)) es
  · intro p hp
    exact heeding (isPaused_created now config) ((period?_run start es).symm.trans hp) es
  · intro before between after _ hresume
    refine ticks_eq_nil_of_not_running ?_ hresume
    rw [run_append]
    exact not_running_step_pause (start.run before)
  · intro hskip p hp
    exact skipping (hpos p hp) (hpolicy.trans hskip) ((period?_run start es).symm.trans hp) hadmitted
  · intro hdrop p hp before after b hes hbase hno
    rw [hes, admitted_append] at hadmitted
    exact (paced_of_base hdrop (hperiod.symm.trans hp) hbase).dropping (hpos p hp)
      (isPaused_of_base hbase) hadmitted.2 hno
  · exact step_pause_of_not_running (not_running_step_pause k)
  · intro hresumed
    refine step_resume_of_not_paused fun p hs => ?_
    rw [Scheduler.isPaused_iff.mpr ⟨p, hs⟩] at hresumed
    cases hresumed
  · exact fun hrate => step_of_no_period (hnone hrate)

/-- Two ticks are late, the schedule is paused, and whoever waits in the meantime has no tick.  The tick after
that is counted from the resumption; one more wait at that time drains it. -/
theorem late_ticks_before_and_after_a_pause :
    let ms : Nat → Nat := fun n => n * nanosPerMilli
    let late : List Happening := [.wait (ms 350), .wait (ms 350)]
    let silence : List Happening := [.wait (ms 400), .delay (ms 500)]
    let before := (late ++ .pause :: silence) ++ [.resume]
    let start := created 0 ⟨10, .drop, 0⟩
    let k := start.run (before ++ [.wait (ms 730)])
    (start.ticks (before ++ [.wait (ms 730)])).map Info.lateBy = [ms 250, ms 150, ms 130] ∧
      (start.run (late ++ [.pause])).ticks silence = [] ∧
      Dropping (start.run before) [.wait (ms 730)] (ms 100) (ms 500) ∧ k.Drains (ms 730) 1 ∧
      1 + (k.ticks [.wait (ms 730)]).length = (ms 730 - ms 500) / ms 100 := by
  intro ms late silence before start k
  have hadmitted : start.Admitted (before ++ [.wait (ms 730)]) := by decide
  have hperiod : k.scheduler.period? = some (ms 100) := by decide
  have hlate : (start.ticks (before ++ [.wait (ms 730)])).map Info.lateBy
      = [ms 250, ms 150, ms 130] := by decide
  have hwaits : ∀ x ∈ history step (start.run before) [.wait (ms 730)], ¬ x.1.Resumes x.2 := by
    intro x hx hresumes
    have hwait := List.mem_singleton.mp (snd_mem_of_mem_history hx)
    cases hwait.symm.trans hresumes.1
  obtain ⟨-, -, -, -, -, hsilent, -, hdrop, -⟩ := ticks_keep_time 0 ⟨10, .drop, 0⟩ hadmitted
  have hnone := hsilent late silence [.resume, .wait (ms 730)] rfl (by simp [silence])
  have hdropping := hdrop rfl (ms 100) hperiod before [.wait (ms 730)] (ms 500) rfl
    (.resumption ⟨rfl, by decide⟩) hwaits
  have hdrains : k.Drains (ms 730) 1 := by
    refine ⟨by decide, ?_⟩
    intro p d hs
    have hend : (k.run [.wait (ms 730)]).scheduler.schedule = .running (ms 100) (ms 800) := by decide
    obtain ⟨-, rfl⟩ := Schedule.running.inj (hend.symm.trans hs)
    decide
  have hnow : k.now ≤ ms 730 := by decide
  have hone : ((start.run before).ticks [.wait (ms 730)]).length = 1 := by decide
  refine ⟨hlate, hnone, hdropping, hdrains, ?_⟩
  rw [← hone]
  exact (hdropping.drained _ (hdropping.running (by simp)) (ms 730) hnow).1 1 hdrains

end Lobby.Tick.Course
