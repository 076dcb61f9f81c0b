/-!
# Durations

A duration is a number of nanoseconds whose whole seconds fit in 64 bits.  Seconds and the
nanoseconds beyond them are views of it.

Instants are read from a clock that keeps its seconds in a signed word of 64 bits.  A duration may
be longer than what is left of such a clock, so the instant a duration after another one need not
exist. -/

namespace CircuitRelay

/-- A length of time. -/
structure Duration where
  /-- The length in nanoseconds. -/
  nanos : Nat
  /-- The whole seconds fit in 64 bits. -/
  bounded : nanos < 2 ^ 64 * 10 ^ 9
  deriving DecidableEq, Repr

/-- A point in time, in nanoseconds on the clock. -/
abbrev Instant := Nat

namespace Instant

/-- The first nanosecond that the clock cannot hold. -/
def limit : Nat := 2 ^ 63 * 10 ^ 9

/-- The instant a duration after `now`, if the clock can hold it. -/
def after? (now : Instant) (d : Duration) : Option Instant :=
  if now + d.nanos < limit then some (now + d.nanos) else none

theorem after?_eq_some_iff {now due : Instant} {d : Duration} :
    after? now d = some due ↔ due < limit ∧ due = now + d.nanos := by
  unfold after?
  split <;> grind

theorem after?_eq_none_iff {now : Instant} {d : Duration} :
    after? now d = none ↔ limit ≤ now + d.nanos := by
  simp [after?]

end Instant

namespace Duration

/-- The nanoseconds of one second. -/
def second : Nat := 10 ^ 9

/-- The empty duration. -/
def zero : Duration := ⟨0, by decide⟩

instance : Inhabited Duration := ⟨zero⟩

/-- The duration of so many nanoseconds, if its seconds fit. -/
def ofNanos? (n : Nat) : Option Duration :=
  if h : n < 2 ^ 64 * 10 ^ 9 then some ⟨n, h⟩ else none

/-- The duration of a word of nanoseconds. -/
def ofWord (n : UInt64) : Duration := ⟨n.toNat, by have := n.toNat_lt; omega⟩

/-- The duration of a word of milliseconds. -/
def ofMillis (n : UInt64) : Duration := ⟨n.toNat * 10 ^ 6, by have := n.toNat_lt; omega⟩

/-- The duration of a word of seconds. -/
def ofSeconds (n : UInt64) : Duration := ⟨n.toNat * 10 ^ 9, by have := n.toNat_lt; omega⟩

/-- The whole seconds. -/
def seconds (d : Duration) : Nat := d.nanos / second

/-- The nanoseconds beyond the whole seconds. -/
def subsecond (d : Duration) : Nat := d.nanos % second

/-- The whole milliseconds. -/
def millis (d : Duration) : Nat := d.nanos / 10 ^ 6

end Duration

end CircuitRelay
