import CircuitRelay.Document.Basic

/-!
# Written numbers

A number in a document is written with digits, and perhaps a fraction and an exponent.  One that is
written as an integer and fits in 64 bits is kept exactly.  Any other is a floating point number:
its leading digits, as far as they fit in a word, are its mantissa, and the number is the rounded
mantissa times or divided by a rounded power of ten.  So it is rounded up to three times, and the
result may differ in its last bit from the nearest floating point number.

`isHuge` says in whole numbers when that product is beyond the range of floating point numbers, and
`Document.float?` computes it; `exceedsFloats` says when the written number itself is.
-/

namespace CircuitRelay

/-- A number as it is written. -/
structure Numeral where
  /-- Whether it has a minus sign. -/
  negative : Bool
  /-- The digits in front of the point. -/
  whole : List Char
  /-- The digits after the point, if it has one. -/
  fraction : Option (List Char)
  /-- The exponent, if it has one. -/
  exponent : Option Int

namespace Numeral

/-- The number of some digits. -/
def ofDigits (cs : List Char) : Nat := cs.foldl (fun n c => 10 * n + (c.toNat - '0'.toNat)) 0

/-! ## Mantissa and exponent -/

/-- Appends digits to a number as long as it stays a word; the answer says how many were left. -/
def appendDigits (n : Nat) : List Char → Nat × Nat
  | [] => (n, 0)
  | c :: cs =>
    let next := 10 * n + (c.toNat - '0'.toNat)
    if next < 2 ^ 64 then appendDigits next cs else (n, cs.length + 1)

/-- The digits in front of the point as far as they fit, and how many were left. -/
def leading (n : Numeral) : Nat × Nat := appendDigits 0 n.whole

/-- The mantissa with the digits after the point, as far as they fit, and how many were left. -/
def trailing (n : Numeral) : Nat × Nat := appendDigits n.leading.1 (n.fraction.getD [])

/-- The mantissa without its sign. -/
def mantissa (n : Numeral) : Nat := n.trailing.1

/-- The exponent that goes with the mantissa: digits that were left count only in front of the
point. -/
def scale (n : Numeral) : Int :=
  n.exponent.getD 0 + n.leading.2 - ((n.fraction.getD []).length - n.trailing.2 : Nat)

/-! ## Range -/

/-- The nearest number of 53 bits, zeros at the end not counted; a tie goes to the even one. -/
def roundBits (n : Nat) : Nat :=
  let unit := 2 ^ (n.log2 + 1 - 53)
  let low := n / unit
  let rest := n % unit
  if 2 * rest < unit ∨ (2 * rest = unit ∧ low % 2 = 0) then low * unit else (low + 1) * unit

/-- The first number that rounds to no floating point number. -/
def limit : Nat := 2 ^ 1024 - 2 ^ 970

/-- The largest exponent of a power of ten that is a floating point number. -/
def maxPower : Nat := 308

/-- Whether the number is beyond the range of floating point numbers. -/
def isHuge (n : Numeral) : Bool :=
  if n.mantissa = 0 ∨ n.scale ≤ 0 then false
  else if maxPower < n.scale then true
  else limit ≤ roundBits n.mantissa * roundBits (10 ^ n.scale.toNat)

/-- Whether no floating point number is near the written number.  The number of digits decides
unless it is close to that of the limit. -/
def exceedsFloats (n : Numeral) : Bool :=
  let value := ofDigits (n.whole ++ n.fraction.getD [])
  let power : Int := n.exponent.getD 0 - (n.fraction.getD []).length
  let places : Int := (Nat.toDigits 10 value).length + power
  if value = 0 ∨ places < 300 then false
  else if 400 < places then true
  else if 0 ≤ power then limit ≤ value * 10 ^ power.toNat
  else limit * 10 ^ (-power).toNat ≤ value

/-- The number of all digits, with its sign. -/
def toInt (n : Numeral) : Int := if n.negative then -(ofDigits n.whole) else ofDigits n.whole

/-- Whether the number is written as an integer that fits in 64 bits; a negative zero is none. -/
def isInteger (n : Numeral) : Bool :=
  n.fraction.isNone && n.exponent.isNone && n.toInt < 2 ^ 64 && -2 ^ 63 ≤ n.toInt &&
    !(n.negative && n.toInt = 0)

/-- The document of a number. -/
def toDocument (n : Numeral) : Document :=
  if n.isInteger then .integer n.toInt
  else if n.isHuge then .huge
  else .decimal (if n.negative then -n.mantissa else n.mantissa) n.scale

/-! ## Value -/

/-- A power of ten. -/
def tenPower (k : Nat) : Float := Float.ofScientific 1 false k

/-- A number divided by a power of ten, step by step when the power is out of range. -/
def divideByPower (f : Float) (k : Nat) : Float :=
  if k ≤ maxPower then f / tenPower k
  else if f == 0 then f
  else divideByPower (f / tenPower maxPower) (k - maxPower)
termination_by k
decreasing_by simp only [maxPower] at *; omega

/-- The floating point number of a mantissa and an exponent. -/
def toFloat (mantissa : Nat) (exponent : Int) : Float :=
  let f := (UInt64.ofNat mantissa).toFloat
  if 0 ≤ exponent then f * tenPower exponent.toNat else divideByPower f exponent.natAbs

end Numeral

/-- The floating point number that a document stands for. -/
def Document.float? : Document → Option Float
  | .integer n => some (Float.ofInt n)
  | .decimal m e =>
    let f := Numeral.toFloat m.natAbs e
    some (if m < 0 then -f else f)
  | _ => none

end CircuitRelay
