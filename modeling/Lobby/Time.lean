/-
Lobby/Time.lean

Spans of time and points in time, in whole seconds and nanoseconds.

Both are written as two numbers.  When they are read, nanoseconds beyond a second are carried over
into the seconds, and what does not fit after that is refused.
-/
import Lobby.Json.Codec

namespace Lobby

open Json (Codec Tree Shape)

/-- Nanoseconds in a second. -/
def nanosPerSecond : Nat := 1000000000

/-- A number of seconds below a limit, and nanoseconds that do not make up a second. -/
structure Seconds (limit : Nat) where
  whole : Nat
  nanos : Nat
  whole_lt : whole < limit
  nanos_lt : nanos < nanosPerSecond
deriving DecidableEq, Repr

namespace Seconds

variable {limit : Nat}

/-- Seconds and any number of nanoseconds, carried over, if the sum stays below the limit. -/
def carry? (whole nanos : Nat) : Option (Seconds limit) :=
  if h : whole + nanos / nanosPerSecond < limit then
    some ⟨whole + nanos / nanosPerSecond, nanos % nanosPerSecond, h, Nat.mod_lt _ (by decide)⟩
  else none

/-- All of it in nanoseconds. -/
def toNanos (s : Seconds limit) : Nat := s.whole * nanosPerSecond + s.nanos

/-- Carrying nothing over changes nothing. -/
theorem carry?_eq_some (s : Seconds limit) : carry? s.whole s.nanos = some s := by
  have hd : s.nanos / nanosPerSecond = 0 := Nat.div_eq_of_lt s.nanos_lt
  have hm : s.nanos % nanosPerSecond = s.nanos := Nat.mod_eq_of_lt s.nanos_lt
  simp only [carry?, hd, hm, Nat.add_zero, s.whole_lt, dif_pos]

/-- As a record of two fields. -/
def write (shape : Shape) (s : Seconds limit) : Tree :=
  .record shape [.ofInt s.whole, .ofInt s.nanos]

/-- From a record of two fields, with seconds of 64 bits and nanoseconds of 32. -/
def read? (shape : Shape) (t : Tree) : Option (Seconds limit) := do
  let [whole, nanos] ← t.slots? shape | none
  carry? (← whole.bind (·.natBelow? UInt64.size)) (← nanos.bind (·.natBelow? UInt32.size))

end Seconds

/-- A span of time. -/
abbrev Span := Seconds UInt64.size

/-- A point in time, counted from the beginning of 1970. -/
abbrev Timestamp := Seconds (UInt64.size / 2)

/-- A span of whole seconds. -/
def Span.ofSeconds (n : Nat) (h : n < UInt64.size) : Span := ⟨n, 0, h, by decide⟩

/-- How a span is written: no other members are allowed. -/
def Span.shape : Shape := ⟨["secs", "nanos"], true, false⟩

/-- How a point in time is written: no other members are allowed. -/
def Timestamp.shape : Shape := ⟨["secs_since_epoch", "nanos_since_epoch"], true, false⟩

instance : Codec Span := ⟨Seconds.write Span.shape, Seconds.read? Span.shape, false⟩

instance : Codec Timestamp := ⟨Seconds.write Timestamp.shape, Seconds.read? Timestamp.shape, false⟩

end Lobby
