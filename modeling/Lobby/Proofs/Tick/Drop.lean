/-
Lobby/Proofs/Tick/Drop.lean

Ticks that are made up for.

Under the policy `drop` the deadline of a tick is a period after the deadline before it, however late that
tick was.  So deadlines stay on the grid of periods that begins at some instant (`Paced`), as long as the
schedule is not resumed, and each tick was due at its place of the grid (`OnGrid`).  Who waits at one time
again and again comes to an end (`Paced.exists_drains`), and then has as many ticks as there are whole
periods up to that time (`Paced.drained`).
-/
import Lobby.Proofs.Tick.Pauses

namespace Lobby.Tick.Course

variable {k k' : Course} {e : Happening} {es : List Happening} {tick : Option Info} {i : Info}
  {b n p q d t : Nat}

/-! ### The grid of periods -/

/-- So many ticks have fired since a time, and the next deadline is on the grid of periods that begins
there. -/
structure Paced (p b n : Nat) (k : Course) : Prop where
  policy : k.scheduler.config.policy = .drop
  period : k.scheduler.period? = some p
  reached : b + n * p ≤ k.now
  next : ∀ q d, k.scheduler.schedule = .running q d → d = b + (n + 1) * p

/-- A happening lets a schedule run again that was paused. -/
def Resumes (k : Course) (e : Happening) : Prop := e = .resume ∧ k.scheduler.isPaused = true

/-- Whatever happens, the deadlines stay on the grid, unless the schedule is resumed. -/
theorem Paced.turn (hpaced : Paced p b n k) (h : Turn k e tick k') (hadmits : k.Admits e)
    (hno : ¬ k.Resumes e) : Paced p b (n + tick.toList.length) k' := by
  have hpolicy := hpaced.policy
  have hperiod := hpaced.period
  refine ⟨by rw [h.config, hpolicy], h.period?.trans hperiod, ?_, ?_⟩
  · cases h with
    | tick hs =>
      -- a tick that fires is not early
      obtain ⟨hdue, -⟩ := hadmits.2 _ _ hs
      rw [hpaced.next _ _ hs] at hdue
      exact hdue
    | nothingDue => exact Nat.le_trans hpaced.reached hadmits.1
    | delay => exact Nat.le_trans hpaced.reached hadmits
    | _ => exact hpaced.reached
  · cases h with
    | tick hs =>
      rintro q d ⟨⟩
      rw [hpolicy, period_of_running hperiod hs, hpaced.next _ _ hs]
      show b + (n + 1) * p + p = b + (n + 1 + 1) * p
      rw [Nat.succ_mul (n + 1), Nat.add_assoc]
    | nothingDue => exact hpaced.next
    | delay => exact hpaced.next
    | pause => exact fun _ _ => nofun
    | pauseAgain => exact hpaced.next
    | resume hs => exact absurd ⟨rfl, Scheduler.isPaused_iff.mpr ⟨_, hs⟩⟩ hno
    | resumeAgain => exact hpaced.next

/-- A tick was due at the next place of the grid, and lets nothing go. -/
structure OnGrid (p b n : Nat) (i : Info) : Prop where
  due : b + n * p ≤ i.firedAt
  lateBy : i.lateBy = i.firedAt - (b + n * p)
  skipped : i.skipped = 0

theorem Paced.onGrid (hpaced : Paced p b n k) (h : Turn k e (some i) k') (hadmits : k.Admits e) :
    OnGrid p b (n + 1) i := by
  have hpolicy := hpaced.policy
  cases h with
  | @tick q d t hs =>
    obtain ⟨hdue, -⟩ := hadmits.2 q d hs
    rw [hpaced.next q d hs] at hdue ⊢
    refine ⟨hdue, rfl, ?_⟩
    show k.scheduler.config.policy.skipped q _ t = 0
    rw [hpolicy]
    rfl

/-- **Under this policy ticks keep to the grid** as long as the schedule is not resumed. -/
theorem Paced.run (hpaced : Paced p b n k) (hadmitted : k.Admitted es)
    (hno : ∀ x ∈ history step k es, ¬ x.1.Resumes x.2) :
    Paced p b (n + (k.ticks es).length) (k.run es) ∧
      ∀ m i, (k.ticks es)[m]? = some i → OnGrid p b (n + m + 1) i := by
  induction es generalizing k n with
  | nil => exact ⟨hpaced, nofun⟩
  | cons e es ih =>
    obtain ⟨hadmits, hrest⟩ := admitted_cons.mp hadmitted
    obtain ⟨hfirst, hlater⟩ := List.forall_mem_cons.mp hno
    have hturn := k.turn e
    obtain ⟨hend, hgrid⟩ := ih (hpaced.turn hturn hadmits hfirst) hrest hlater
    rw [ticks_cons]
    rcases htick : k.tick? e with - | i <;> rw [htick] at hturn hend hgrid
    · exact ⟨hend, hgrid⟩
    · refine ⟨?_, ?_⟩
      · rw [List.length_append, ← Nat.add_assoc]
        exact hend
      · intro m j hj
        cases m with
        | zero =>
          cases hj
          exact hpaced.onGrid hturn hadmits
        | succ m =>
          have hj' := hgrid m j hj
          rwa [Option.toList_some, List.length_singleton, Nat.add_right_comm n 1 m] at hj'

/-! ### Draining -/

/-- Somebody waits at one time again and again, until no tick is due any more. -/
structure Drains (k : Course) (t m : Nat) : Prop where
  admitted : k.Admitted (List.replicate m (.wait t))
  done : ∀ p d, (k.run (List.replicate m (.wait t))).scheduler.schedule = .running p d → t < d

/-- Waiting at one time takes no time once it is that time. -/
theorem now_run_replicate (ht : k.now ≤ t) (m : Nat) :
    (k.run (List.replicate m (.wait t))).now ≤ t := by
  induction m generalizing k with
  | zero => exact ht
  | succ m ih => exact ih (k := k.step (.wait t)) (Nat.le_refl t)

/-- **Whoever drains at a time has all ticks up to that time.** -/
theorem Paced.drained (hpaced : Paced p b n k) (hs : k.scheduler.schedule = .running p d)
    (ht : k.now ≤ t) {m : Nat} (hdrains : k.Drains t m) :
    n + (k.ticks (List.replicate m (.wait t))).length = (t - b) / p := by
  have hno : ∀ x ∈ history step k (List.replicate m (.wait t)), ¬ x.1.Resumes x.2 := by
    intro x hx hresumes
    have hwait := List.eq_of_mem_replicate (snd_mem_of_mem_history hx)
    cases hwait.symm.trans hresumes.1
  obtain ⟨hend, -⟩ := hpaced.run hdrains.admitted hno
  have hnow := now_run_replicate ht m
  have hpause : .pause ∉ List.replicate m (Happening.wait t) := by simp
  obtain ⟨d', hs'⟩ := running_run hs hpause
  -- the last tick was due, and the next one is not
  have hreached := Nat.le_trans hend.reached hnow
  have hdone := hdrains.done p d' hs'
  rw [hend.next p d' hs'] at hdone
  symm
  apply Nat.div_eq_of_lt_le <;> omega

/-- Who waits as often as ticks are missing drains, if the next wait is not so late that it cannot be
counted. -/
theorem Paced.drains (hp : 0 < p) (hpaced : Paced p b n k)
    (hs : k.scheduler.schedule = .running p d) (ht : k.now ≤ t)
    (hbound : (t - d) / p < UInt64.size) {m : Nat} (hm : (t - b) / p = n + m) : k.Drains t m := by
  have hbt : b ≤ t := Nat.le_trans (Nat.le_trans (Nat.le_add_right ..) hpaced.reached) ht
  induction m generalizing k n d with
  | zero =>
    refine ⟨List.forall_mem_nil _, ?_⟩
    intro q d' hs'
    rw [hpaced.next q d' hs']
    have hlt : t - b < (n + 1) * p := (Nat.div_lt_iff_lt_mul hp).mp (by omega)
    omega
  | succ m ih =>
    have hdue : d ≤ t := by
      have hle : (n + 1) * p ≤ t - b := (Nat.le_div_iff_mul_le hp).mp (by omega)
      rw [hpaced.next p d hs]
      omega
    have hadmits : k.Admits (.wait t) := by
      refine ⟨ht, ?_⟩
      intro q d' hs'
      obtain ⟨rfl, rfl⟩ := Schedule.running.inj (hs.symm.trans hs')
      exact ⟨hdue, hbound⟩
    have hstep := step_wait_of_running hs t
    have hpaced' : Paced p b (n + 1) (k.step (.wait t)) := by
      rw [hstep]
      exact hpaced.turn (.tick hs) hadmits fun hresumes => nomatch hresumes.1
    -- later deadlines are nearer to the time
    have hlater : d ≤ k.scheduler.config.policy.next p d t := by
      rw [hpaced.policy]
      exact Nat.le_add_right d p
    have hbound' : (t - k.scheduler.config.policy.next p d t) / p < UInt64.size :=
      Nat.lt_of_le_of_lt (Nat.div_le_div_right (Nat.sub_le_sub_left hlater t)) hbound
    have hdrains : (k.step (.wait t)).Drains t m := by
      refine ih hpaced' ?_ (Nat.le_refl t) hbound' (by omega)
      rw [hstep]
    exact ⟨admitted_cons.mpr ⟨hadmits, hdrains.admitted⟩, hdrains.done⟩

/-- So draining comes to an end. -/
theorem Paced.exists_drains (hp : 0 < p) (hpaced : Paced p b n k)
    (hs : k.scheduler.schedule = .running p d) (ht : k.now ≤ t)
    (hbound : (t - d) / p < UInt64.size) : ∃ m, k.Drains t m := by
  have hn : n ≤ (t - b) / p := by
    have hreached := Nat.le_trans hpaced.reached ht
    exact (Nat.le_div_iff_mul_le hp).mpr (by omega)
  obtain ⟨m, hm⟩ := Nat.exists_eq_add_of_le hn
  exact ⟨m, hpaced.drains hp hs ht hbound hm⟩

/-! ### What whole rows keep to -/

/-- Ticks of which late ones are made up for, as long as the schedule is not resumed: they are due at whole
numbers of periods since some instant, one after the other, and let none go.  The next one is due at the
next of these, and nothing but a pause since that instant keeps it from being so.  Whoever waits at a time
until nothing is due any more, which he can, has as many as there are whole periods up to then. -/
structure Dropping (k : Course) (es : List Happening) (p b : Nat) : Prop where
  grid : ∀ n i, (k.ticks es)[n]? = some i → OnGrid p b (n + 1) i
  next : ∀ d, (k.run es).scheduler.schedule = .running p d →
    d = b + ((k.ticks es).length + 1) * p
  running : .pause ∉ es →
    (k.run es).scheduler.schedule = .running p (b + ((k.ticks es).length + 1) * p)
  drained : ∀ d, (k.run es).scheduler.schedule = .running p d → ∀ t, (k.run es).now ≤ t →
    (∀ m, (k.run es).Drains t m →
      (k.ticks es).length + ((k.run es).ticks (List.replicate m (.wait t))).length = (t - b) / p) ∧
    ((t - d) / p < UInt64.size → ∃ m, (k.run es).Drains t m)

theorem Paced.dropping (hp : 0 < p) (hpaced : Paced p b 0 k)
    (hfirst : k.scheduler.isPaused = false) (hadmitted : k.Admitted es)
    (hno : ∀ x ∈ history step k es, ¬ x.1.Resumes x.2) : Dropping k es p b := by
  obtain ⟨hend, hgrid⟩ := hpaced.run hadmitted hno
  rw [Nat.zero_add] at hend
  refine ⟨?_, hend.next p, ?_, ?_⟩
  · intro n i hi
    rw [← Nat.zero_add n]
    exact hgrid n i hi
  · intro hpause
    obtain ⟨d, hs⟩ := Scheduler.exists_running hpaced.period hfirst
    obtain ⟨d', hs'⟩ := running_run hs hpause
    rw [← hend.next p d' hs']
    exact hs'
  · intro d hs t ht
    exact ⟨fun m => hend.drained hs ht, hend.exists_drains hp hs ht⟩

end Lobby.Tick.Course
