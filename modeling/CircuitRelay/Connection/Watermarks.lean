import CircuitRelay.Duration.Basic

/-!
# Watermarks

The number of connections is kept between two marks: at the high mark a pass closes connections
until the low mark is reached.  `Watermarks` carries what a valid setting promises: the low mark
does not exceed the high one, and the high one is positive.
-/

namespace CircuitRelay

/-- A checked policy for the number of connections. -/
structure Watermarks where
  /-- A pass stops here. -/
  low : Nat
  /-- A pass starts here. -/
  high : Nat
  /-- No connection younger than this is closed. -/
  grace : Duration
  /-- The time between two passes. -/
  interval : Duration
  /-- The marks are in order. -/
  low_le_high : low ≤ high
  /-- A pass never starts without connections. -/
  high_pos : 0 < high

namespace Watermarks

/-- Why marks are refused. -/
inductive Fault where
  | zeroHigh
  | inverted (low high : Nat)
  deriving DecidableEq, Repr

/-- The words for a fault. -/
def Fault.message : Fault → String
  | .zeroHigh => "high watermark must be greater than zero"
  | .inverted low high =>
    "low watermark " ++ toString low ++ " exceeds high watermark " ++ toString high

/-- Checks marks; a zero high mark is reported before the order of the two. -/
def check (low high : Nat) (grace interval : Duration) : Except Fault Watermarks :=
  if hpos : 0 < high then
    if hle : low ≤ high then .ok ⟨low, high, grace, interval, hle, hpos⟩
    else .error (.inverted low high)
  else .error .zeroHigh

/-- The marks of a node without settings. -/
def standard : Watermarks where
  low := 512
  high := 768
  grace := .ofSeconds 120
  interval := .ofSeconds 10
  low_le_high := by decide
  high_pos := by decide

instance : Inhabited Watermarks := ⟨standard⟩

end Watermarks

end CircuitRelay
