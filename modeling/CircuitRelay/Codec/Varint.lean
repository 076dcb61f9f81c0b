/-!
# Variable-length integers

Seven value bits an octet, least significant group first; the high bit says that more follow.  At
most ten octets make a 64-bit number, and a last octet of zero after the first is refused because
a shorter form exists.
-/

namespace CircuitRelay.Codec.Varint

/-- Reads further groups: `place` groups are already in `acc`, `left` more octets may follow. -/
def decodeFrom (place acc : Nat) : Nat → List UInt8 → Option (Nat × List UInt8)
  | 0, _ => none
  | _ + 1, [] => none
  | left + 1, b :: bs =>
    let acc := acc + b.toNat % 128 * 128 ^ place
    if b.toNat < 128 then
      if b = 0 ∧ 0 < place then none else some (acc % 2 ^ 64, bs)
    else decodeFrom (place + 1) acc left bs

/-- Reads one number in front of octets. -/
def decode (bs : List UInt8) : Option (Nat × List UInt8) := decodeFrom 0 0 10 bs

/-- Writes a number in its shortest form. -/
def encode (n : Nat) : List UInt8 :=
  if n < 128 then [n.toUInt8] else (128 + n % 128).toUInt8 :: encode (n / 128)
termination_by n

end CircuitRelay.Codec.Varint
