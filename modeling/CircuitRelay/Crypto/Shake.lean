import CircuitRelay.Codec.Positional

/-!
# SHAKE-128

A sponge over a permutation of twenty-five words.  The words are listed row by row: the word of
column `x` and row `y` stands at `x + 5 * y`.
-/

namespace CircuitRelay

namespace Crypto.Shake

/-- The state of the sponge: twenty-five words. -/
abbrev State := List UInt64

/-- The word of a column and a row, both taken modulo five. -/
def word (s : State) (x y : Nat) : UInt64 := s.getD (x % 5 + 5 * (y % 5)) 0

/-- The state whose words a function gives. -/
def ofFn (f : Nat → Nat → UInt64) : State := (List.range 25).map fun i => f (i % 5) (i / 5)

/-- Rotates a word to the left. -/
def rotl (x : UInt64) (n : Nat) : UInt64 :=
  (x <<< UInt64.ofNat n) ||| (x >>> UInt64.ofNat ((64 - n) % 64))

/-- The constants added to the first word, round by round. -/
def roundConstants : List UInt64 := [
  0x0000000000000001, 0x0000000000008082, 0x800000000000808A, 0x8000000080008000,
  0x000000000000808B, 0x0000000080000001, 0x8000000080008081, 0x8000000000008009,
  0x000000000000008A, 0x0000000000000088, 0x0000000080008009, 0x000000008000000A,
  0x000000008000808B, 0x800000000000008B, 0x8000000000008089, 0x8000000000008003,
  0x8000000000008002, 0x8000000000000080, 0x000000000000800A, 0x800000008000000A,
  0x8000000080008081, 0x8000000000008080, 0x0000000080000001, 0x8000000080008008]

/-- The places by which the words are rotated, in the order of the walk that starts at column one
and row zero and goes from `(x, y)` to `(y, 2 * x + 3 * y)`. -/
def rotations (x y t : Nat) : Nat → List ((Nat × Nat) × Nat)
  | 0 => []
  | n + 1 => ((x, y), (t + 1) * (t + 2) / 2 % 64) :: rotations y ((2 * x + 3 * y) % 5) (t + 1) n

/-- The place by which the word of a column and a row is rotated. -/
def rotation (x y : Nat) : Nat := ((rotations 1 0 0 24).lookup (x, y)).getD 0

/-- The parity of a column. -/
def parity (s : State) (x : Nat) : UInt64 :=
  word s x 0 ^^^ word s x 1 ^^^ word s x 2 ^^^ word s x 3 ^^^ word s x 4

/-- Adds the parities of two neighbouring columns to every column. -/
def mixColumns (s : State) : State :=
  let p := (List.range 5).map (parity s)
  ofFn fun x y => word s x y ^^^ p.getD ((x + 4) % 5) 0 ^^^ rotl (p.getD ((x + 1) % 5) 0) 1

/-- Rotates the words and moves them to other places. -/
def scatter (s : State) : State :=
  ofFn fun x y => rotl (word s (x + 3 * y) x) (rotation ((x + 3 * y) % 5) x)

/-- Combines every word with the next two of its row. -/
def mixRows (s : State) : State :=
  ofFn fun x y => word s x y ^^^ (~~~word s (x + 1) y &&& word s (x + 2) y)

/-- One round with its constant. -/
def round (s : State) (k : UInt64) : State :=
  let t := mixRows (scatter (mixColumns s))
  t.set 0 (word t 0 0 ^^^ k)

/-- The permutation of the sponge. -/
def permute (s : State) : State := roundConstants.foldl round s

/-- The number of octets that the sponge takes at a time. -/
def rate : Nat := 168

/-- Adds a block of octets to the state and stirs. -/
def absorb (s : State) (bs : List UInt8) : State :=
  permute (ofFn fun x y =>
    word s x y ^^^ UInt64.ofNat (Codec.ofLittleEndian ((bs.drop (8 * (x + 5 * y))).take 8)))

/-- A message filled up to whole blocks. -/
def padded (message : List UInt8) : List UInt8 :=
  let room := rate - message.length % rate
  if room = 1 then message ++ [0x9F]
  else message ++ [0x1F] ++ List.replicate (room - 2) 0 ++ [0x80]

/-- Absorbs so many blocks. -/
def absorbAll : Nat → State → List UInt8 → State
  | 0, s, _ => s
  | n + 1, s, bs => absorbAll n (absorb s (bs.take rate)) (bs.drop rate)

/-- The octets of the state. -/
def octets (s : State) : List UInt8 := s.flatMap fun w => Codec.littleEndian 8 w.toNat

/-- The first octets of the output for a message; at most one block of them. -/
def hash (length : Nat) (message : List UInt8) : List UInt8 :=
  let bs := padded message
  (octets (absorbAll (bs.length / rate) (List.replicate 25 0) bs)).take (min length rate)

end Crypto.Shake

end CircuitRelay
