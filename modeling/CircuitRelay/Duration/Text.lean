import CircuitRelay.Duration.Basic
import CircuitRelay.Text.Blank
import CircuitRelay.Text.Integer
import CircuitRelay.Text.Quoted

/-!
# Durations in text

A duration is written as a sum of terms such as `1h 30m`: a number, possibly with a decimal
fraction, and a unit.  Blanks may stand anywhere between the characters of a number and after a
unit.  `write` takes each unit as often as it fits, from years down to nanoseconds.

The reader is an automaton over characters: a `Scan` holds the sum of the finished terms and what
is being read.  Numbers, and their products with a unit, must fit in 64 bits, and a fraction must
come to a whole number: of seconds from hours on, of nanoseconds for the shorter units.
-/

namespace CircuitRelay

namespace Duration

/-- The units of duration texts. -/
inductive TimeUnit where
  | nanosecond
  | microsecond
  | millisecond
  | second
  | minute
  | hour
  /-- A day of 24 hours. -/
  | day
  /-- Seven days. -/
  | week
  /-- A twelfth of a year, rounded to 30.44 days. -/
  | month
  /-- A year of 365.25 days. -/
  | year
  deriving DecidableEq, Repr

/-- The length of a unit in nanoseconds. -/
def TimeUnit.nanos : TimeUnit → Nat
  | .nanosecond => 1
  | .microsecond => 10 ^ 3
  | .millisecond => 10 ^ 6
  | .second => 10 ^ 9
  | .minute => 60 * 10 ^ 9
  | .hour => 3600 * 10 ^ 9
  | .day => 86400 * 10 ^ 9
  | .week => 7 * 86400 * 10 ^ 9
  | .month => 2630016 * 10 ^ 9
  | .year => 31557600 * 10 ^ 9

/-- The unit of a name. -/
def TimeUnit.ofName? : String → Option TimeUnit
  | "nanos" | "nsec" | "ns" => some .nanosecond
  | "usec" | "us" | "µs" => some .microsecond
  | "millis" | "msec" | "ms" => some .millisecond
  | "seconds" | "second" | "secs" | "sec" | "s" => some .second
  | "minutes" | "minute" | "mins" | "min" | "m" => some .minute
  | "hours" | "hour" | "hrs" | "hr" | "h" => some .hour
  | "days" | "day" | "d" => some .day
  | "weeks" | "week" | "wks" | "wk" | "w" => some .week
  | "months" | "month" | "M" => some .month
  | "years" | "year" | "yrs" | "yr" | "y" => some .year
  | _ => none

/-- Why a text is no duration.  Positions count octets. -/
inductive Fault where
  | empty
  | numberExpected (position : Nat)
  | invalidCharacter (position : Nat)
  /-- No unit has this name; `value` is the number in front of it. -/
  | unknownUnit (name : String) (value : Nat)
  /-- A number does not fit, or a fraction comes to no whole number. -/
  | overflow
  deriving DecidableEq, Repr

/-- The words for a fault. -/
def Fault.message : Fault → String
  | .empty => "value was empty"
  | .numberExpected i => "expected number at " ++ toString i
  | .invalidCharacter i => "invalid character at " ++ toString i
  | .unknownUnit name value =>
    if name = "" then
      "time unit needed, for example " ++ toString value ++ "sec or " ++ toString value ++ "ms"
    else
      "unknown time unit " ++ "\"" ++ name ++ "\"" ++ ", supported units: ns, us/µs, ms, sec, " ++
        "min, hours, days, weeks, months, years (and few variations)"
  | .overflow => "number is too large or cannot be represented without a lack of precision " ++
      "(values below 1ns are not supported)"

/-! ## Reading -/

/-- A number that fits in 64 bits. -/
def word? (n : Nat) : Except Fault Nat := if n < 2 ^ 64 then .ok n else .error .overflow

/-- A decimal fraction as numerator and denominator. -/
structure Fraction where
  /-- The digits after the point as a number. -/
  numerator : Nat
  /-- The power of ten that they are parts of. -/
  denominator : Nat

/-- The fraction before its first digit. -/
def Fraction.start : Fraction := ⟨0, 1⟩

/-- One more digit after the point. -/
def Fraction.digit (f : Fraction) (d : Nat) : Except Fault Fraction := do
  let denominator ← word? (f.denominator * 10)
  let numerator ← word? (f.numerator * 10 + d)
  pure ⟨numerator, denominator⟩

/-- What is being read. -/
inductive Phase where
  /-- A number should start; a fault names the given position. -/
  | start (position : Nat)
  | number (n : Nat)
  /-- The digits after the point; a fault names the given position. -/
  | fraction (n : Nat) (f : Fraction) (position : Nat)
  | unit (n : Nat) (f : Option Fraction) (letters : List Char)

/-- The state of the reader. -/
structure Scan where
  /-- The sum of the finished terms in nanoseconds. -/
  sum : Nat
  /-- Whether a term was finished. -/
  hasTerm : Bool
  /-- What is being read. -/
  phase : Phase

/-- The state before the first character. -/
def Scan.initial : Scan := ⟨0, false, .start 0⟩

/-- Adds seconds and nanoseconds to a sum. -/
def addTo (sum seconds nanos : Nat) : Except Fault Nat := do
  let _ ← word? (sum % Duration.second + nanos)
  let total := sum + seconds * Duration.second + nanos
  if total < 2 ^ 64 * 10 ^ 9 then .ok total else .error .overflow

/-- Adds so many units to a sum. -/
def addUnits (sum n : Nat) (u : TimeUnit) : Except Fault Nat := do
  if u.nanos < Duration.second then
    let nanos ← word? (n * u.nanos)
    addTo sum 0 nanos
  else
    let seconds ← word? (n * (u.nanos / Duration.second))
    addTo sum seconds 0

/-- A fraction of so many equal parts, when it comes to a whole number of them. -/
def Fraction.of (f : Fraction) (parts : Nat) : Except Fault Nat := do
  let product ← word? (f.numerator * parts)
  if product % f.denominator = 0 then .ok (product / f.denominator) else .error .overflow

/-- Adds a fraction of a unit to a sum.  A nanosecond has no fractions. -/
def addFraction (sum : Nat) (f : Fraction) (u : TimeUnit) : Except Fault Nat := do
  if u = .nanosecond then .error .overflow
  else if u.nanos ≤ TimeUnit.minute.nanos then
    let nanos ← f.of u.nanos
    addTo sum 0 nanos
  else
    let seconds ← f.of (u.nanos / Duration.second)
    addTo sum seconds 0

/-- Adds one term to a sum. -/
def addTerm (sum n : Nat) (f : Option Fraction) (letters : List Char) : Except Fault Nat :=
  match TimeUnit.ofName? (String.ofList letters) with
  | none => .error (.unknownUnit (String.ofList letters) n)
  | some u => do
    let sum ← addUnits sum n u
    match f with
    | none => pure sum
    | some f => addFraction sum f u

/-- Whether a character can be part of a unit's name. -/
def isUnitLetter (c : Char) : Bool :=
  ('a' ≤ c && c ≤ 'z') || ('A' ≤ c && c ≤ 'Z') || c = 'µ'

/-- Reads the character `c` at position `i`. -/
def Scan.step (s : Scan) (i : Nat) (c : Char) : Except Fault Scan :=
  match s.phase with
  | .start position =>
    match Text.digitValue? c with
    | some d => .ok { s with phase := .number d }
    | none => if Text.isBlank c then .ok s else .error (.numberExpected position)
  | .number n =>
    match Text.digitValue? c with
    | some d => do
      let n ← word? (n * 10 + d)
      pure { s with phase := .number n }
    | none =>
      if Text.isBlank c then .ok s
      else if isUnitLetter c then .ok { s with phase := .unit n none [c] }
      else if c = '.' then .ok { s with phase := .fraction n .start i }
      else .error (.invalidCharacter i)
  | .fraction n f position =>
    match Text.digitValue? c with
    | some d => do
      let f ← f.digit d
      pure { s with phase := .fraction n f (i + c.utf8Size) }
    | none =>
      if Text.isBlank c then .ok { s with phase := .fraction n f (i + c.utf8Size) }
      else if isUnitLetter c then
        if f.denominator = 1 then .error (.invalidCharacter position)
        else .ok { s with phase := .unit n (some f) [c] }
      else .error (.invalidCharacter position)
  | .unit n f letters =>
    match Text.digitValue? c with
    | some d => do
      let sum ← addTerm s.sum n f letters
      pure ⟨sum, true, .number d⟩
    | none =>
      if Text.isBlank c then do
        let sum ← addTerm s.sum n f letters
        pure ⟨sum, true, .start (i + c.utf8Size)⟩
      else if isUnitLetter c then .ok { s with phase := .unit n f (letters ++ [c]) }
      else .error (.invalidCharacter i)

/-- Reads characters from position `i` on. -/
def Scan.run (s : Scan) (i : Nat) : List Char → Except Fault Scan
  | [] => .ok s
  | c :: cs => do
    let s ← s.step i c
    s.run (i + c.utf8Size) cs

/-- The sum at the end of the text. -/
def Scan.finish (s : Scan) : Except Fault Nat :=
  match s.phase with
  | .start _ => if s.hasTerm then .ok s.sum else .error .empty
  | .number n => addTerm s.sum n none []
  | .fraction n f position =>
    if f.denominator = 1 then .error (.invalidCharacter position) else addTerm s.sum n (some f) []
  | .unit n f letters => addTerm s.sum n f letters

/-- Reads a duration.  A lone `0` needs no unit. -/
def ofText (s : String) : Except Fault Duration :=
  if s = "0" then .ok zero
  else do
    let scan ← Scan.initial.run 0 s.toList
    let sum ← scan.finish
    match ofNanos? sum with
    | some d => .ok d
    | none => .error .overflow

/-! ## Writing -/

/-- How the terms of a written duration are named. -/
inductive Naming where
  | plain (name : String)
  /-- The name takes an `s` unless the number is one. -/
  | counted (name : String)

/-- One term, or nothing for zero. -/
def Naming.term (naming : Naming) (n : Nat) : Option String :=
  if n = 0 then none
  else
    match naming with
    | .plain name => some (String.ofList (Text.digits n) ++ name)
    | .counted name =>
      some (String.ofList (Text.digits n) ++ name ++ if n = 1 then "" else "s")

/-- The units that are written, largest first, with their names. -/
def written : List (TimeUnit × Naming) := [
  (.year, .counted "year"),
  (.month, .counted "month"),
  (.day, .counted "day"),
  (.hour, .plain "h"),
  (.minute, .plain "m"),
  (.second, .plain "s"),
  (.millisecond, .plain "ms"),
  (.microsecond, .plain "us"),
  (.nanosecond, .plain "ns")]

/-- The terms of so many nanoseconds in the given units, largest first. -/
def terms (n : Nat) : List (TimeUnit × Naming) → List String
  | [] => []
  | (u, naming) :: rest => (naming.term (n / u.nanos)).toList ++ terms (n % u.nanos) rest

/-- The text of a duration: each unit as often as it fits. -/
def toText (d : Duration) : String :=
  if d.nanos = 0 then "0s" else " ".intercalate (terms d.nanos written)

end Duration

end CircuitRelay
