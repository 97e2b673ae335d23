/-
Lobby/Tick.lean

The clock that sweeps run on.

A schedule has a period and the deadline of its next tick.  A tick fires at or after its deadline;
how the deadline after it is found is the schedule's **policy**: `skip` counts from the time the
tick fired and lets whole periods that passed go, `drop` counts from the deadline, so that late
ticks are made up for.  While a schedule is paused, or when its rate is zero, nothing fires.

Times are in nanoseconds.  A sleeper wakes at the first whole millisecond at or after the time it
sleeps to (`wakeTime`).
-/
import Lobby.Time

namespace Lobby.Tick

/-! ### Settings -/

/-- What to do about periods that passed before a tick fired. -/
inductive Policy where
  | skip
  | drop
deriving DecidableEq, Repr

/-- How often to tick, in hertz, how to be late, and by how many microseconds at most the first
tick is put off. -/
structure Config where
  rate : UInt32
  policy : Policy
  jitterMicros : Nat
deriving DecidableEq, Repr

/-- The highest rate. -/
def maxRate : UInt32 := 100

namespace Config

/-- One tick a second. -/
def standard : Config := ⟨1, .skip, 100000⟩

/-- The settings with a rate that is not too high. -/
def validated (c : Config) : Config := if c.rate ≤ maxRate then c else { c with rate := maxRate }

/-- The time between ticks, rounded down to nanoseconds; none at rate zero. -/
def period? (c : Config) : Option Nat :=
  if c.rate = 0 then none else some (nanosPerSecond / c.rate.toNat)

end Config

/-! ### Schedules -/

/-- When the next tick is due. -/
inductive Schedule where
  /-- Never: the rate is zero. -/
  | disabled
  | running (period deadline : Nat)
  | paused (period : Nat)
deriving DecidableEq, Repr

/-- The settings, when the next tick is due, and how many have fired.  The count has 64 bits and goes up by
one with each tick, of which there are a hundred in a second at most: it does not wrap for billions of
years. -/
structure Scheduler where
  config : Config
  schedule : Schedule
  fired : Nat
deriving DecidableEq, Repr

/-- A tick: its number, when it fired, how late, and how many periods it let go. -/
structure Info where
  number : Nat
  firedAt : Nat
  lateBy : Nat
  skipped : Nat
deriving DecidableEq, Repr

namespace Scheduler

/-- A schedule whose first tick is due one period, and a delay, from now. -/
def create (now : Nat) (delay : Nat) (config : Config) : Scheduler :=
  let config := config.validated
  match config.period? with
  | none => ⟨config, .disabled, 0⟩
  | some period => ⟨config, .running period (now + period + delay), 0⟩

/-- The time between ticks. -/
def period? (s : Scheduler) : Option Nat :=
  match s.schedule with
  | .disabled => none
  | .running period _ => some period
  | .paused period => some period

/-- Whether the schedule is paused. -/
def isPaused (s : Scheduler) : Bool :=
  match s.schedule with
  | .paused _ => true
  | _ => false

/-- Whether the rate is zero. -/
def isDisabled (s : Scheduler) : Bool := s.schedule = .disabled

/-- The next tick fires at some time at or after its deadline.  Missed periods are counted in 64
bits. -/
def fire (s : Scheduler) (firedAt : Nat) : Option (Info × Scheduler) :=
  match s.schedule with
  | .running period deadline =>
    let late := firedAt - deadline
    let missed := late / period % UInt64.size
    let (next, skipped) :=
      match s.config.policy with
      | .skip => (firedAt + period, missed)
      | .drop => (deadline + period, 0)
    some (⟨s.fired + 1, firedAt, late, skipped⟩,
      { s with schedule := .running period next, fired := s.fired + 1 })
  | _ => none

/-- Stops a running schedule. -/
def pause (s : Scheduler) : Scheduler :=
  match s.schedule with
  | .running period _ => { s with schedule := .paused period }
  | _ => s

/-- Lets a paused schedule run again; the next tick is due one period from now. -/
def resume (s : Scheduler) (now : Nat) : Scheduler :=
  match s.schedule with
  | .paused period => { s with schedule := .running period (now + period) }
  | _ => s

end Scheduler

/-! ### Waiting for a tick -/

/-- Nanoseconds in a millisecond. -/
def nanosPerMilli : Nat := 1000000

/-- The first whole millisecond at or after a time. -/
def wholeMilli (t : Nat) : Nat := (t + (nanosPerMilli - 1)) / nanosPerMilli * nanosPerMilli

/-- When a sleeper wakes that lies down now and sleeps to a deadline. -/
def wakeTime (now deadline : Nat) : Nat := if deadline ≤ now then now else wholeMilli deadline

namespace Scheduler

/-- Waits for the next tick, for a number of milliseconds at most.  Says which tick fired, if one
did, and what the time is then; a tick that wakes with the limit comes first. -/
def await (s : Scheduler) (now limitMillis : Nat) : Option Info × Scheduler × Nat :=
  let limit := now + limitMillis * nanosPerMilli
  match s.schedule with
  | .running _ deadline =>
    let wake := wakeTime now deadline
    if wake ≤ limit then
      match s.fire wake with
      | some (info, s) => (some info, s, wake)
      | none => (none, s, limit)
    else (none, s, limit)
  | _ => (none, s, limit)

end Scheduler

end Lobby.Tick
