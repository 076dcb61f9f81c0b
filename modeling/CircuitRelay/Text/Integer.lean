/-!
# Decimal integers in text

Ports, prefix sizes and memory ids are written in decimal.  `readNat` reads a natural number up
to a maximum: one leading plus sign is allowed, leading zeros are allowed, and of two faults the
leftmost one is reported.  `digits` writes the shortest decimal form.

* `readNat_le`: a number that was read respects its maximum.
-/

namespace CircuitRelay.Text

/-- Why a text is not an integer of the wanted size. -/
inductive IntegerFault where
  | empty
  | invalidDigit
  | tooLarge
  deriving DecidableEq, Repr

/-- The words for a fault. -/
def IntegerFault.message : IntegerFault → String
  | .empty => "cannot parse integer from empty string"
  | .invalidDigit => "invalid digit found in string"
  | .tooLarge => "number too large to fit in target type"

/-- The value of a decimal digit. -/
def digitValue? (c : Char) : Option Nat :=
  if '0' ≤ c ∧ c ≤ '9' then some (c.toNat - '0'.toNat) else none

/-- The value of a hexadecimal digit in either case. -/
def hexValue? (c : Char) : Option Nat :=
  if '0' ≤ c ∧ c ≤ '9' then some (c.toNat - '0'.toNat)
  else if 'a' ≤ c ∧ c ≤ 'f' then some (c.toNat - 'a'.toNat + 10)
  else if 'A' ≤ c ∧ c ≤ 'F' then some (c.toNat - 'A'.toNat + 10)
  else none

/-- The value of a digit of base ten or sixteen. -/
def baseValue? (base : Nat) (c : Char) : Option Nat := (hexValue? c).filter (· < base)

/-- Continues a number with further digits, checking the maximum after each one. -/
def readDigits (base max acc : Nat) : List Char → Except IntegerFault Nat
  | [] => .ok acc
  | c :: cs =>
    match baseValue? base c with
    | none => .error .invalidDigit
    | some d =>
      if base * acc + d ≤ max then readDigits base max (base * acc + d) cs else .error .tooLarge

/-- Reads a natural number of at most `max` in the given base. -/
def readNatBase (base max : Nat) : List Char → Except IntegerFault Nat
  | [] => .error .empty
  | ['+'] => .error .invalidDigit
  | '+' :: cs => readDigits base max 0 cs
  | cs => readDigits base max 0 cs

/-- Reads a decimal natural number of at most `max`. -/
def readNat (max : Nat) (cs : List Char) : Except IntegerFault Nat := readNatBase 10 max cs

/-- The shortest decimal form of a natural number. -/
def digits (n : Nat) : List Char := Nat.toDigits 10 n

theorem readDigits_le {base max acc n : Nat} {cs : List Char} (hacc : acc ≤ max)
    (h : readDigits base max acc cs = .ok n) : n ≤ max := by
  induction cs generalizing acc with
  | nil => simp only [readDigits, Except.ok.injEq] at h; omega
  | cons c cs ih =>
    simp only [readDigits] at h
    split at h
    · cases h
    · split at h
      · exact ih ‹_› h
      · cases h

/-- A number that was read respects its maximum. -/
theorem readNat_le {max n : Nat} {cs : List Char} (h : readNat max cs = .ok n) : n ≤ max := by
  unfold readNat readNatBase at h
  split at h
  · cases h
  · cases h
  · exact readDigits_le (Nat.zero_le _) h
  · exact readDigits_le (Nat.zero_le _) h

end CircuitRelay.Text
