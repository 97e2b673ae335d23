/-
Lobby/Proofs/Tick/Skip.lean

Ticks that let periods go.

Under the policy `skip` the deadline of a tick is a period after the tick before it.  From then on it stays
at least so far away, whatever happens (`Rests`), and so ticks are a period apart (`spaced`).  If nobody
pauses or resumes in between, it is exactly a period away, and a tick and the periods that it lets go fill
the time since the tick before it (`succ_skipped`).
-/
import Lobby.Proofs.Tick.Course

namespace Lobby.Tick.Course

variable {k k' : Course} {e : Happening} {es : List Happening} {tick : Option Info} {i : Info}
  {p q d t : Nat}

/-! ### The next tick is a period away -/

/-- Since a tick that fired at some time the next one is a period away. -/
structure Rests (p t : Nat) (k : Course) : Prop where
  policy : k.scheduler.config.policy = .skip
  period : k.scheduler.period? = some p
  past : t ≤ k.now
  next : ∀ q d, k.scheduler.schedule = .running q d → t + p ≤ d

/-- A tick that fires under this policy keeps the next one a period away. -/
theorem rests_of_tick (hpolicy : k.scheduler.config.policy = .skip)
    (hperiod : k.scheduler.period? = some p) (h : Turn k e (some i) k') : Rests p i.firedAt k' := by
  refine ⟨by rw [h.config, hpolicy], h.period?.trans hperiod, ?_, ?_⟩
  · cases h
    exact Nat.le_refl _
  · cases h with
    | tick hs =>
      rintro q d ⟨⟩
      rw [hpolicy, period_of_running hperiod hs]
      exact Nat.le_refl _

/-- Whatever happens, the next tick stays a period away. -/
theorem Rests.turn (hrests : Rests p t k) (h : Turn k e tick k') (hadmits : k.Admits e) :
    Rests p t k' := by
  have hpolicy := hrests.policy
  have hperiod := hrests.period
  refine ⟨by rw [h.config, hpolicy], h.period?.trans hperiod, ?_, ?_⟩
  · cases h with
    | tick => exact Nat.le_trans hrests.past hadmits.1
    | nothingDue => exact Nat.le_trans hrests.past hadmits.1
    | delay => exact Nat.le_trans hrests.past hadmits
    | _ => exact hrests.past
  · cases h with
    | tick hs =>
      -- the one after a tick is a period after that tick, which was no earlier
      rintro q d ⟨⟩
      rw [hpolicy, period_of_running hperiod hs]
      exact Nat.add_le_add_right (Nat.le_trans hrests.past hadmits.1) p
    | nothingDue => exact hrests.next
    | delay => exact hrests.next
    | pause => exact fun _ _ => nofun
    | pauseAgain => exact hrests.next
    | resume hs =>
      rintro q d ⟨⟩
      rw [period_of_paused hperiod hs]
      exact Nat.add_le_add_right hrests.past p
    | resumeAgain => exact hrests.next

/-- What fires since then fires a period later or more. -/
theorem Rests.le_firedAt (hrests : Rests p t k) (hadmitted : k.Admitted es) :
    ∀ i ∈ k.ticks es, t + p ≤ i.firedAt := by
  induction es generalizing k with
  | nil => exact List.forall_mem_nil _
  | cons e es ih =>
    obtain ⟨hadmits, hrest⟩ := admitted_cons.mp hadmitted
    intro i hi
    rw [ticks_cons] at hi
    rcases List.mem_append.mp hi with hfirst | hlater
    · obtain ⟨q, d, hs, hdue, -⟩ := due_of_tick hadmits (Option.mem_toList.mp hfirst)
      exact Nat.le_trans (hrests.next q d hs) hdue
    · exact ih (hrests.turn (k.turn e) hadmits) hrest i hlater

/-- **Under this policy ticks are at least a period apart**, whether the schedule is paused between them or
not. -/
theorem spaced (hpolicy : k.scheduler.config.policy = .skip) (hperiod : k.scheduler.period? = some p)
    (hadmitted : k.Admitted es) : (k.ticks es).Pairwise fun i j => i.firedAt + p ≤ j.firedAt := by
  induction es generalizing k with
  | nil => exact .nil
  | cons e es ih =>
    obtain ⟨-, hrest⟩ := admitted_cons.mp hadmitted
    have hturn := k.turn e
    rw [ticks_cons]
    refine List.pairwise_append.mpr ⟨?_, ?_, ?_⟩
    · cases k.tick? e <;> simp
    · exact ih (by rw [hturn.config, hpolicy]) (hturn.period?.trans hperiod) hrest
    · intro i hi j hj
      rw [Option.mem_toList.mp hi] at hturn
      exact (rests_of_tick hpolicy hperiod hturn).le_firedAt hrest j hj

/-- If nothing fires, and nobody pauses or resumes, the scheduler stays as it is. -/
theorem scheduler_run_of_idle (hidle : ∀ e ∈ es, e ≠ .pause ∧ e ≠ .resume) (h : k.ticks es = []) :
    (k.run es).scheduler = k.scheduler := by
  induction es generalizing k with
  | nil => rfl
  | cons e es ih =>
    obtain ⟨⟨hpause, hresume⟩, hrest⟩ := List.forall_mem_cons.mp hidle
    rw [ticks_cons, List.append_eq_nil_iff] at h
    have hturn := k.turn e
    rw [Option.toList_eq_nil_iff.mp h.1] at hturn
    have hstep : (k.step e).scheduler = k.scheduler := by
      generalize k.step e = k' at hturn
      cases hturn with
      | pause | pauseAgain => exact absurd rfl hpause
      | resume | resumeAgain => exact absurd rfl hresume
      | _ => rfl
    exact (ih hrest h.2).trans hstep

/-- **A tick and the periods that it lets go fill the time since the tick before it**, if nobody has paused
or resumed in between. -/
theorem succ_skipped {e' : Happening} {j : Info} (hp : 0 < p)
    (hpolicy : k.scheduler.config.policy = .skip) (hperiod : k.scheduler.period? = some p)
    (hi : k.tick? e = some i) (hidle : ∀ e ∈ es, e ≠ .pause ∧ e ≠ .resume)
    (hnone : (k.step e).ticks es = []) (hj : ((k.step e).run es).tick? e' = some j)
    (hadmits : ((k.step e).run es).Admits e') :
    1 + j.skipped = (j.firedAt - i.firedAt) / p := by
  have hsame := scheduler_run_of_idle hidle hnone
  generalize (k.step e).run es = k₂ at hj hadmits hsame
  have hturn := k.turn e
  rw [hi] at hturn
  generalize k.step e = k₁ at hturn hsame
  -- the deadline of the later tick is a period after the earlier one
  have hschedule : k₂.scheduler.schedule = .running p (i.firedAt + p) := by
    rw [hsame]
    cases hturn with
    | tick hs =>
      show Schedule.running _ _ = _
      rw [hpolicy, period_of_running hperiod hs]
      rfl
  have hpolicy₂ : k₂.scheduler.config.policy = .skip := by
    rw [hsame, hturn.config, hpolicy]
  have hturn₂ := k₂.turn e'
  rw [hj] at hturn₂
  generalize k₂.step e' = k₃ at hturn₂
  cases hturn₂ with
  | @tick q d t hs =>
    obtain ⟨rfl, rfl⟩ := Schedule.running.inj (hschedule.symm.trans hs)
    obtain ⟨hdue, hbound⟩ := hadmits.2 _ _ hs
    have hdiv : (t - i.firedAt) / p = (t - (i.firedAt + p)) / p + 1 := by
      rw [← Nat.sub_sub]
      exact Nat.div_eq_sub_div hp (by omega)
    show 1 + k₂.scheduler.config.policy.skipped p (i.firedAt + p) t = (t - i.firedAt) / p
    rw [hpolicy₂, Policy.skipped, Nat.mod_eq_of_lt hbound, hdiv, Nat.add_comm]

/-! ### What whole rows keep to -/

/-- Ticks of which late ones let periods go: they are at least a period apart, and if nobody pauses or
resumes between one tick and the next, then the later one and the periods that it lets go are as many as
the whole periods since the earlier one. -/
structure Skipping (k : Course) (es : List Happening) (p : Nat) : Prop where
  apart : (k.ticks es).Pairwise fun i j => i.firedAt + p ≤ j.firedAt
  filled : ∀ before e between e' after i j, es = before ++ e :: (between ++ e' :: after) →
    (k.run before).tick? e = some i →
    ((k.run before).step e).ticks between = [] → (∀ e ∈ between, e ≠ .pause ∧ e ≠ .resume) →
    (((k.run before).step e).run between).tick? e' = some j →
    1 + j.skipped = (j.firedAt - i.firedAt) / p

theorem skipping (hp : 0 < p) (hpolicy : k.scheduler.config.policy = .skip)
    (hperiod : k.scheduler.period? = some p) (hadmitted : k.Admitted es) : Skipping k es p where
  apart := spaced hpolicy hperiod hadmitted
  filled := by
    intro before e between e' after i j hes hi hnone hidle hj
    rw [hes, admitted_append, admitted_cons, admitted_append, admitted_cons] at hadmitted
    obtain ⟨-, -, -, hadmits, -⟩ := hadmitted
    exact succ_skipped hp (by rw [config_run, hpolicy]) ((period?_run ..).trans hperiod) hi hidle
      hnone hj hadmits

end Lobby.Tick.Course
