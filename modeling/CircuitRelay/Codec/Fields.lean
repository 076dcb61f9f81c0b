import CircuitRelay.Codec.Varint

/-!
# Messages of numbered fields

A message is a sequence of fields, each a number with a value in one of a few wire forms.  Whoever
reads a message takes the fields it knows and skips the others, whose form says where they end.
Groups are fields that hold fields up to a mark with their own number.
-/

namespace CircuitRelay

namespace Codec.Fields

/-- A value as it stands on the wire. -/
inductive Value where
  | varint (n : Nat)
  /-- Four or eight octets. -/
  | fixed (octets : List UInt8)
  | octets (bs : List UInt8)
  /-- Fields up to the end of the group. -/
  | group
  deriving DecidableEq, Repr

/-- Reads a number of at most 64 bits in at most ten octets. -/
def readVarintFrom (place acc : Nat) : Nat → List UInt8 → Option (Nat × List UInt8)
  | 0, _ => none
  | _, [] => none
  | n + 1, b :: bs =>
    let acc := acc + b.toNat % 128 * 2 ^ place
    if b < 128 then if acc < 2 ^ 64 then some (acc, bs) else none
    else readVarintFrom (place + 7) acc n bs

/-- Reads a number of at most 64 bits. -/
def readVarint (bs : List UInt8) : Option (Nat × List UInt8) := readVarintFrom 0 0 10 bs

/-- Splits so many octets off. -/
def splitAt? (n : Nat) (bs : List UInt8) : Option (List UInt8 × List UInt8) :=
  if n ≤ bs.length then some (bs.take n, bs.drop n) else none

/-- Reads the number and the wire form of a field. -/
def readKey (bs : List UInt8) : Option ((Nat × Nat) × List UInt8) := do
  let (key, bs) ← readVarint bs
  if key < 2 ^ 32 ∧ 0 < key / 8 then some ((key / 8, key % 8), bs) else none

/-- The number of groups around a value from which on a message is refused. -/
def maxGroups : Nat := 100

mutual

/-- Reads the value of a field with a number in a wire form. -/
def readValue (number form : Nat) : Nat → Nat → List UInt8 → Option (Value × List UInt8)
  | 0, _, _ => none
  | fuel + 1, groups, bs =>
    if maxGroups ≤ groups then none
    else if form = 0 then (readVarint bs).map fun (n, bs) => (.varint n, bs)
    else if form = 1 then (splitAt? 8 bs).map fun (b, bs) => (.fixed b, bs)
    else if form = 5 then (splitAt? 4 bs).map fun (b, bs) => (.fixed b, bs)
    else if form = 2 then do
      let (n, bs) ← readVarint bs
      (splitAt? n bs).map fun (b, bs) => (.octets b, bs)
    else if form = 3 then
      (skipGroup number fuel (groups + 1) bs).map fun bs => (.group, bs)
    else none

/-- Skips the fields of a group up to its end. -/
def skipGroup (number : Nat) : Nat → Nat → List UInt8 → Option (List UInt8)
  | 0, _, _ => none
  | fuel + 1, groups, bs => do
    let ((inner, form), bs) ← readKey bs
    if form = 4 then if inner = number then some bs else none
    else
      let (_, bs) ← readValue inner form fuel groups bs
      skipGroup number fuel groups bs

end

/-- Reads fields up to the end of the message. -/
def readFrom : Nat → List UInt8 → Option (List (Nat × Value))
  | _, [] => some []
  | 0, _ => none
  | fuel + 1, bs => do
    let ((number, form), bs) ← readKey bs
    let (v, bs) ← readValue number form (fuel + 1) 0 bs
    let rest ← readFrom fuel bs
    some ((number, v) :: rest)

/-- The fields of a message. -/
def read (bs : List UInt8) : Option (List (Nat × Value)) := readFrom (bs.length + 1) bs

end Codec.Fields

end CircuitRelay
