/-!
# Positional numerals

A list of digits, most significant first, in any base.  Octet strings are numerals of base 256,
base58 texts numerals of base 58; both are turned into each other through the number they mean.

* `ofDigits_append_singleton`: one more digit multiplies by the base.
-/

-- A power of a number is core's own one, also where the powers of a monoid are in scope.
attribute [instance (high)] instPowNat
attribute [default_instance 10001] instPowNat

namespace CircuitRelay.Codec

/-- The number that digits mean, most significant first. -/
def ofDigits (base : Nat) (ds : List Nat) : Nat := ds.foldl (fun n d => base * n + d) 0

/-- The digits of a number in front of `acc`, most significant first and without leading zeros. -/
def toDigitsAux (base n : Nat) (acc : List Nat) : List Nat :=
  if _ : n = 0 ∨ base ≤ 1 then acc
  else toDigitsAux base (n / base) (n % base :: acc)
termination_by n
decreasing_by
  have h' : n ≠ 0 ∧ 1 < base := by omega
  exact Nat.div_lt_self (Nat.pos_of_ne_zero h'.1) h'.2

/-- The digits of a number, most significant first and without leading zeros. -/
def toDigits (base n : Nat) : List Nat := toDigitsAux base n []

@[simp] theorem ofDigits_nil (base : Nat) : ofDigits base [] = 0 := rfl

theorem ofDigits_append_singleton (base : Nat) (ds : List Nat) (d : Nat) :
    ofDigits base (ds ++ [d]) = base * ofDigits base ds + d := by
  simp [ofDigits, List.foldl_append]

/-- The octets of a number in exactly `width` places, least significant first. -/
def littleEndian (width n : Nat) : List UInt8 :=
  (List.range width).map fun i => (n / 256 ^ i % 256).toUInt8

/-- The number that octets mean, least significant first. -/
def ofLittleEndian (bs : List UInt8) : Nat := bs.foldr (fun b n => b.toNat + 256 * n) 0

end CircuitRelay.Codec
