import CircuitRelay.Text.Integer

/-!
# Hexadecimal octets

Two lower-case digits an octet when writing.  Reading takes digits of either case.
-/

namespace CircuitRelay.Codec.Hex

/-- One lower-case hexadecimal digit. -/
def digit (n : Nat) : Char :=
  if n < 10 then Char.ofNat ('0'.toNat + n) else Char.ofNat ('a'.toNat + (n - 10))

/-- The octets as text. -/
def encode (bs : List UInt8) : String :=
  String.ofList (bs.flatMap fun b => [digit (b.toNat / 16), digit (b.toNat % 16)])

/-- Reads pairs of digits. -/
def decode : List Char → Option (List UInt8)
  | [] => some []
  | [_] => none
  | a :: b :: rest => do
    let x ← Text.hexValue? a
    let y ← Text.hexValue? b
    let bs ← decode rest
    pure ((16 * x + y).toUInt8 :: bs)

end CircuitRelay.Codec.Hex
