import CircuitRelay.Text.Integer

/-!
# Floating point numbers in text

A floating point number of 64 bits is a whole multiple of the smallest positive one, so its size
is a natural number in that unit, and comparing sizes compares the numbers.  Sizes have at most 53
bits with zeros behind them; the first one that would need a larger exponent stands for infinity.

`ofDecimal` rounds a decimal number to the nearest size, ties to the even one.  `toText` writes the
fewest digits that are read back as the number, the nearest such ones, and never an exponent.
-/

namespace CircuitRelay

/-- A floating point number of 64 bits, infinite or not. -/
structure Floating where
  /-- Whether it has a minus sign. -/
  negative : Bool
  /-- Its size as a multiple of the smallest positive number. -/
  size : Nat
  deriving DecidableEq, Repr

namespace Floating

/-- The bits of a size that count. -/
def precision : Nat := 53

/-- The size of one is two to this power. -/
def unitExponent : Nat := 1074

/-- The size that stands for infinity. -/
def infiniteSize : Nat := 2 ^ (1024 + unitExponent)

/-! ## Order -/

/-- The number as a multiple of the smallest positive one; both zeros are zero. -/
def toInt (x : Floating) : Int := if x.negative then -x.size else x.size

/-- The order of the numbers. -/
def compare (x y : Floating) : Ordering := Ord.compare x.toInt y.toInt

/-! ## Rounding -/

/-- The nearest whole number to a fraction, a tie going to the even one. -/
def roundDiv (n d : Nat) : Nat :=
  let low := n / d
  let rest := n % d
  if 2 * rest < d ∨ (2 * rest = d ∧ low % 2 = 0) then low else low + 1

/-- The distance between neighbouring sizes around a size. -/
def spacing (size : Nat) : Nat := 2 ^ (size.log2 + 1 - precision)

/-- The size nearest to a fraction. -/
def sizeOf (n d : Nat) : Nat :=
  let unit := spacing (n / d)
  min infiniteSize (roundDiv n (d * unit) * unit)

/-- The floating point number nearest to `n * 10 ^ exponent`.  The number of digits decides when it
is far out of range. -/
def ofDecimal (negative : Bool) (n : Nat) (exponent : Int) : Floating :=
  let places : Int := (Nat.toDigits 10 n).length + exponent
  if n = 0 ∨ places < -400 then ⟨negative, 0⟩
  else if 400 < places then ⟨negative, infiniteSize⟩
  else if 0 ≤ exponent then ⟨negative, sizeOf (n * 10 ^ exponent.toNat * 2 ^ unitExponent) 1⟩
  else ⟨negative, sizeOf (n * 2 ^ unitExponent) (10 ^ exponent.natAbs)⟩

/-! ## Reading -/

/-- A floating point number, or what stands for none. -/
inductive Literal where
  | number (x : Floating)
  | notANumber
  deriving DecidableEq, Repr

/-- Reads an optional sign; the answer is whether it is a minus. -/
def readSign : List Char → Bool × List Char
  | '-' :: cs => (true, cs)
  | '+' :: cs => (false, cs)
  | cs => (false, cs)

/-- The number of some digits. -/
def ofDigits (cs : List Char) : Nat := cs.foldl (fun n c => 10 * n + (c.toNat - '0'.toNat)) 0

/-- Reads an exponent up to the end of a text, if there is one. -/
def readExponent : List Char → Option Int
  | [] => some 0
  | c :: cs =>
    let (negative, digits) := readSign cs
    if (c = 'e' ∨ c = 'E') ∧ ¬digits.isEmpty ∧ digits.all Char.isDigit then
      some (if negative then -(ofDigits digits : Int) else ofDigits digits)
    else none

/-- Reads the digits after the point, if there is one. -/
def readFraction : List Char → List Char × List Char
  | '.' :: cs => (cs.takeWhile Char.isDigit, cs.dropWhile Char.isDigit)
  | cs => ([], cs)

/-- Reads a decimal number up to the end of a text.  There is a digit before or after the point. -/
def readDecimal (negative : Bool) (cs : List Char) : Option Floating := do
  let whole := cs.takeWhile Char.isDigit
  let (fraction, rest) := readFraction (cs.dropWhile Char.isDigit)
  let exponent ← readExponent rest
  if whole.isEmpty ∧ fraction.isEmpty then none
  else some (ofDecimal negative (ofDigits (whole ++ fraction)) (exponent - fraction.length))

/-- Reads a text as a floating point number.  The words for infinity and for no number may have
capital letters. -/
def ofText? (cs : List Char) : Option Literal :=
  let (negative, rest) := readSign cs
  match String.ofList (rest.map Char.toLower) with
  | "inf" | "infinity" => some (.number ⟨negative, infiniteSize⟩)
  | "nan" => some .notANumber
  | _ => (readDecimal negative rest).map .number

/-! ## Writing -/

/-- A decimal number: digits and a power of ten. -/
structure Decimal where
  /-- The digits as a number. -/
  digits : Nat
  /-- The power of ten. -/
  exponent : Int
  deriving DecidableEq, Repr

/-- Sizes are compared with decimal numbers after both were multiplied by this power of ten. -/
def decimalShift : Nat := 400

/-- Twice the distances from a size to the ends of the interval that rounds to it.  Below the first
size with a spacing the lower neighbours are nearer. -/
def margins (size : Nat) : Nat × Nat :=
  let above := spacing size
  let below := if size = 2 ^ size.log2 ∧ 1 < above then above / 2 else above
  (below, above)

/-- Whether `n / d` is read back as a size. -/
def isReadBack (size n d : Nat) : Bool :=
  let (below, above) := margins size
  let low := (2 * size - below) * d
  let high := (2 * size + above) * d
  if size / spacing size % 2 = 0 then low ≤ 2 * n && 2 * n ≤ high
  else low < 2 * n && 2 * n < high

/-- The decimal number on the grid of a power of ten that is read back as a size, if there is one;
of two, the nearer one. -/
def onGrid? (size power : Nat) : Option Decimal :=
  let unit := 10 ^ power * 2 ^ unitExponent
  let scaled := size * 10 ^ decimalShift
  let low := scaled / unit
  let isBack (n : Nat) := isReadBack size (n * unit) (10 ^ decimalShift)
  let answer (n : Nat) : Option Decimal := some ⟨n, (power : Int) - decimalShift⟩
  match isBack low, isBack (low + 1) with
  | true, true => if 2 * (scaled % unit) < unit then answer low else answer (low + 1)
  | true, false => answer low
  | false, true => answer (low + 1)
  | false, false => none

/-- The decimal number with the fewest digits that is read back as a size; seventeen are always
enough. -/
def shortest (size : Nat) : Decimal :=
  let places := (Nat.toDigits 10 (size * 10 ^ decimalShift / 2 ^ unitExponent)).length
  ((List.range 17).findSome? fun n => onGrid? size (places - 1 - n)).getD ⟨0, 0⟩

/-- A written decimal number, without an exponent. -/
def Decimal.toText (d : Decimal) : List Char :=
  let digits := Text.digits d.digits
  if 0 ≤ d.exponent then digits ++ List.replicate d.exponent.toNat '0'
  else
    let after := d.exponent.natAbs
    let padded := List.replicate (after + 1 - digits.length) '0' ++ digits
    let whole := padded.take (padded.length - after)
    let fraction := padded.drop (padded.length - after)
    let kept := (fraction.reverse.dropWhile (· = '0')).reverse
    if kept.isEmpty then whole else whole ++ ['.'] ++ kept

/-- The text of a floating point number. -/
def toText (x : Floating) : String :=
  let sign := if x.negative then ['-'] else []
  let body :=
    if x.size = 0 then ['0']
    else if infiniteSize ≤ x.size then "inf".toList
    else (shortest x.size).toText
  String.ofList (sign ++ body)

/-- The text of a literal. -/
def Literal.toText : Literal → String
  | .number x => x.toText
  | .notANumber => "NaN"

end Floating

end CircuitRelay
